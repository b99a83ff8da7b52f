import DbSchema.Proofs.Sql.Fences
import DbSchema.Proofs.Sql.Isolation
import DbSchema.Proofs.Text.Escapes

/-!
# The literals of MySQL scripts

A MySQL script writes the comments, enumerated values and defaults of a schema as literals, with
their quote marks doubled and nothing else changed. MySQL reads a backslash in a literal as the
start of an escape. `literals_denote_spared_texts` says which literals a script has, and which of
them MySQL reads as the texts that they were made from.
-/

namespace DbSchema

/-- The text that a default is written as a literal for, if it is. -/
def DefaultValue.literalText? : DefaultValue → Option String
  | .text value => if Sql.isExpression value then none else some value
  | _ => none

/-- The texts that a column is written with literals for: values, default and comment. -/
def Column.literalTexts (column : Column) : List String :=
  (if Sql.isEnumColumn column then column.enumValues else [])
    ++ (column.default.bind DefaultValue.literalText?).toList ++ column.comment.toList

/-- The texts that a table is written with literals for. -/
def Table.literalTexts (table : Table) : List String :=
  table.columns.flatMap Column.literalTexts ++ table.comment.toList

namespace Sql

section Texts

/-- A default is a literal for its text. -/
@[simp] theorem literalText?_defaultPiece (dialect : Dialect) (value : DefaultValue) :
    (defaultPiece dialect value).literalText? = value.literalText? := by
  cases value with
  | text value =>
      simp only [defaultPiece, DefaultValue.literalText?]
      split <;> rfl
  | _ => rfl

theorem literalTexts_columnType (table : String) (column : Column) :
    literalTexts (columnType .mysql table column).pieces =
      if isEnumColumn column then column.enumValues else [] := by
  unfold columnType isEnumColumn
  split
  case isTrue isEnum =>
    split
    case isTrue empty => simp [TypeClause.pieces, empty]
    case isFalse some => simp [TypeClause.pieces, Dialect.declaresEnums, isEnum, some]
  case isFalse other => simp [TypeClause.pieces, other]

/-- The literals of a column are those for its values, its default and its comment. -/
theorem literalTexts_columnClause (table : String) (column : Column) :
    literalTexts (columnClause .mysql table column).pieces = column.literalTexts := by
  have word (given : Bool) (text : String) :
      literalTexts (if given then [.plain text] else []) = [] := by
    cases given <;> rfl
  have value : literalTexts (optionalPieces (fun value => [.plain " DEFAULT ", value])
      (column.default.map (defaultPiece .mysql))) =
        (column.default.bind DefaultValue.literalText?).toList := by
    cases column.default with
    | none => rfl
    | some value =>
        simp only [Option.map_some, optionalPieces, literalTexts_cons, literalText?_defaultPiece,
          literalTexts_nil, Option.bind_some, List.append_nil]
        rfl
  have comment : literalTexts (optionalPieces (fun comment => .plain " " :: commentClause comment)
      column.comment) = column.comment.toList := by
    cases column.comment <;> simp [commentClause]
  unfold ColumnClause.pieces columnClause
  simp only [literalTexts_append, literalTexts_columnType, word, value, Dialect.commentsInline,
    if_true, comment]
  simp [Column.literalTexts]

/-- The literals of a table are those of its columns and the one for its comment. -/
theorem literalTexts_tableStatement (table : Table) :
    literalTexts (tableStatement .mysql table).core = table.literalTexts := by
  have columns : (table.columns.flatMap fun column =>
      literalTexts (TableElement.column (columnClause .mysql table.name column)).pieces) =
        table.columns.flatMap Column.literalTexts :=
    List.flatMap_congr fun column _ => by
      simpa [TableElement.pieces] using literalTexts_columnClause table.name column
  have key :
      (primaryKeyElements table).flatMap (fun element => literalTexts element.pieces) = [] := by
    rw [List.flatMap_eq_nil_iff]
    intro element member
    rw [(mem_primaryKeyElements.1 member).2]
    simp [TableElement.pieces]
  have options : literalTexts (tableOptions .mysql table.comment) = table.comment.toList := by
    cases table.comment <;> simp [tableOptions]
  simp only [tableStatement, tableElements, Statement.core, literalTexts_append,
    literalTexts_elementPieces, List.flatMap_append, List.flatMap_map, columns, key, options]
  simp [Table.literalTexts]

/-- The statements behind those that create the tables have no literals. -/
theorem literalTexts_of_mem_later {schema : Schema} {statement : Statement}
    (member : statement ∈ createIndexes .mysql schema ++ addForeignKeys .mysql schema
      ++ createJunctions .mysql schema ++ schema.routines.map (createRoutine .mysql)) :
    literalTexts statement.core = [] := by
  simp only [List.mem_append] at member
  rcases member with ((inIndexes | inKeys) | inJunctions) | inRoutines
  · obtain ⟨table, -, index, -, rfl⟩ := mem_createIndexes.1 inIndexes
    simp [createIndex, Statement.core]
  · obtain ⟨table, -, key, -, rfl⟩ := mem_addForeignKeys.1 inKeys
    simp [addForeignKey, Statement.core]
  · obtain ⟨relationship, -, -, junction, -, rfl⟩ := mem_createJunctions.1 inJunctions
    simp [junctionStatement, Statement.core, TableElement.pieces, junctionColumn,
      junctionReference, ColumnClause.pieces, TypeClause.pieces, tableOptions, optionalPieces]
  · obtain ⟨routine, -, rfl⟩ := List.mem_map.1 inRoutines
    simp [createRoutine, Statement.core, parameterPieces, ParameterClause.pieces,
      procedureParameter]

/-- The statements of a MySQL script are those that create the tables of the schema, and those
behind them. -/
theorem statementsOf_mysql (schema : Schema) :
    statementsOf .mysql schema = schema.tables.map (tableStatement .mysql)
      ++ (createIndexes .mysql schema ++ addForeignKeys .mysql schema
        ++ createJunctions .mysql schema ++ schema.routines.map (createRoutine .mysql)) := by
  have tables : (createTables .mysql schema).flatten =
      schema.tables.map (tableStatement .mysql) := by
    rw [createTables, ← List.flatMap_def, List.map_eq_flatMap]
    rfl
  rw [statementsOf, tables]
  simp [createNamespaces, createEnums, Dialect.hasNamespaces, Dialect.declaresEnums]

theorem sections_scriptOf {options : Options} {time : Timestamp} {schema : Schema}
    (mysql : options.dialectFor schema = .mysql) :
    (scriptOf options time schema).sections = sectionsOf .mysql schema := by
  rw [scriptOf, mysql]

/-- The literals of a MySQL script are those of its tables. -/
theorem literalTexts_script {options : Options} {time : Timestamp} {schema : Schema}
    (mysql : options.dialectFor schema = .mysql) :
    literalTexts (scriptOf options time schema).pieces =
      schema.tables.flatMap Table.literalTexts := by
  have sections (parts : List Section) : literalTexts (parts.flatMap Section.pieces) =
      (parts.flatMap fun part => part.entries.flatten).flatMap fun statement =>
        literalTexts statement.core := by
    induction parts with
    | nil => rfl
    | cons part parts inductionHypothesis =>
        rw [List.flatMap_cons, literalTexts_append, literalTexts_section, inductionHypothesis,
          List.flatMap_cons, List.flatMap_append]
  have later : (createIndexes .mysql schema ++ addForeignKeys .mysql schema
      ++ createJunctions .mysql schema ++ schema.routines.map (createRoutine .mysql)).flatMap
        (fun statement => literalTexts statement.core) = [] :=
    List.flatMap_eq_nil_iff.2 fun _ member => literalTexts_of_mem_later member
  have header : literalTexts (commentPieces (scriptOf options time schema).header) = [] :=
    literalTexts_commentPieces _
  rw [Script.pieces, literalTexts_append, header, sections_scriptOf mysql, sections,
    ← statementsOf_eq, statementsOf_mysql, List.flatMap_append, later, List.flatMap_map,
    List.append_nil, List.nil_append]
  exact List.flatMap_congr fun table _ => literalTexts_tableStatement table

end Texts

section Fences

/-- The type of a column is fenced, whatever its values are. -/
theorem isFenced_columnType (table : String) (column : Column) :
    IsFenced (columnType .mysql table column).pieces := by
  unfold columnType
  split
  · split
    · trivial
    · exact ((isFenced_literals column.enumValues).behind rfl).append trivial rfl
  · trivial

/-- A column is fenced, whatever its default and its comment are. -/
theorem isFenced_columnClause (table : String) (column : Column) :
    IsFenced (columnClause .mysql table column).pieces := by
  have word (given : Bool) (text : String) : IsFenced (if given then [.plain text] else []) := by
    cases given <;> trivial
  have stopsWord (given : Bool) {text : String}
      (starts : text.toList.head?.any (· != '\'') = true) :
      StopsLiteral (if given then [.plain text] else []) := by
    cases given
    · trivial
    · exact starts
  have value (value : Option Piece) :
      IsFenced (optionalPieces (fun value => [.plain " DEFAULT ", value]) value) := by
    cases value with
    | none => trivial
    | some piece => cases piece <;> trivial
  have comment (comment : Option String) : IsFenced
      (optionalPieces (fun comment => .plain " " :: commentClause comment) comment) := by
    cases comment <;> trivial
  have named :
      IsFenced ([.name column.name, .plain " "] ++ (columnType .mysql table column).pieces) :=
    (isFenced_columnType table column).behind rfl
  exact (((named.append (word _ _) (stopsWord _ rfl)).append (word _ _) (stopsWord _ rfl)).append
    (value _) (stopsLiteral_optional _ fun _ => rfl)).append
      (comment _) (stopsLiteral_optional _ fun _ => rfl)

/-- The statement that creates a table is fenced. -/
theorem isFenced_tableStatement (table : Table) :
    IsFenced (tableStatement .mysql table).core := by
  have elements (element : TableElement) (member : element ∈ tableElements .mysql table) :
      IsFenced element.pieces := by
    obtain ⟨column, -, rfl⟩ | ⟨-, rfl⟩ := mem_tableElements.1 member
    · exact isFenced_columnClause table.name column
    · exact isFenced_of_none (by simp [TableElement.pieces])
  have list : IsFenced (elementPieces (tableElements .mysql table)) := by
    refine IsFenced.append (IsFenced.behind (isFenced_separated (by decide) ?_) rfl) trivial ?_
    · simpa only [List.forall_mem_map] using elements
    · rw [StopsLiteral]
      split <;> rfl
  have options : IsFenced (tableOptions .mysql table.comment) := by
    cases table.comment <;> trivial
  exact IsFenced.append (list.behind (by simp)) options rfl

/-- Every statement of a MySQL script is fenced. -/
theorem isFenced_of_mem_statementsOf {schema : Schema} {statement : Statement}
    (member : statement ∈ statementsOf .mysql schema) : IsFenced statement.pieces := by
  have core : IsFenced statement.core := by
    rw [statementsOf_mysql] at member
    rcases List.mem_append.1 member with inTables | later
    · obtain ⟨table, -, rfl⟩ := List.mem_map.1 inTables
      exact isFenced_tableStatement table
    · exact isFenced_of_none (literalTexts_of_mem_later later)
  exact IsFenced.append (core.behind (literalTexts_commentPieces _)) trivial rfl

/-- A MySQL script is fenced. -/
theorem isFenced_script {options : Options} {time : Timestamp} {schema : Schema}
    (mysql : options.dialectFor schema = .mysql) :
    IsFenced (scriptOf options time schema).pieces := by
  have statements (part : Section) (inScript : part ∈ sectionsOf .mysql schema)
      (statement : Statement) (inPart : statement ∈ part.entries.flatten) :
      IsFenced statement.pieces := by
    have inSchema : statement ∈ statementsOf .mysql schema := by
      rw [statementsOf_eq]
      exact List.mem_flatMap.2 ⟨part, inScript, inPart⟩
    exact isFenced_of_mem_statementsOf inSchema
  rw [Script.pieces, sections_scriptOf mysql]
  exact (isFenced_sections statements).1.behind (literalTexts_commentPieces _)

end Fences

/-- A MySQL script has literals for the comments, values and defaults of the tables, and no others.
Read at its place in the script, a literal is taken for its text, and ends where it was meant to,
exactly when every backslash of the text, together with the character behind it, stands for just
these two: for every text without backslashes, for none that ends in one, and for texts without
backslashes only where no escape is of this kind. -/
theorem literals_denote_spared_texts (rules : Text.EscapeRules) {options : Options}
    (time : Timestamp) {schema : Schema} (mysql : options.dialectFor schema = .mysql) :
    let pieces := (scriptOf options time schema).pieces
    let textOf := Piece.textOf Dialect.mysql.quoteMark
    literalTexts pieces = schema.tables.flatMap Table.literalTexts
      ∧ ∀ front text behind, pieces = front ++ .literal text :: behind →
        let literal := (Text.quoteLiteral text).toList
        let denotes := rules.readEscapedLiteral (literal ++ textOf behind) =
          some (text.toList, textOf behind)
        (compile options time schema).toList = textOf front ++ (literal ++ textOf behind)
          ∧ (denotes ↔ rules.Spares text.toList)
          ∧ ('\\' ∉ text.toList → denotes)
          ∧ (text.toList.getLast? = some '\\' → ¬denotes)
          ∧ ((∀ character, rules.meaning character ≠ ['\\', character]) →
            denotes → '\\' ∉ text.toList) := by
  intro pieces textOf
  refine ⟨literalTexts_script mysql, fun front text behind split => ?_⟩
  intro literal denotes
  have fenced : IsFenced (front ++ .literal text :: behind) := split ▸ isFenced_script mysql
  have iff : denotes ↔ rules.Spares text.toList :=
    rules.readEscapedLiteral_quoteLiteral_iff (fenced.stopsLiteral.head?_ne _)
  have dialect : (scriptOf options time schema).dialect = .mysql := mysql
  refine ⟨?_, iff, fun none => iff.2 (rules.spares_of_not_mem none),
    fun ends holds => rules.not_spares_of_getLast? ends (iff.1 holds),
    fun changes holds => (rules.spares_iff_not_mem changes).1 (iff.1 holds)⟩
  calc (compile options time schema).toList
      = textOf pieces := by rw [compile, Script.text, dialect, textIn, String.toList_ofList]
    _ = textOf front ++ (literal ++ textOf behind) := by
        rw [split]
        exact textOf_append _ _ _

/-- The escapes of MySQL. Two of them keep their backslash, for the patterns that a text may be. -/
def mysqlEscapes : Text.EscapeRules where
  meaning
    | '0' => ['\x00']
    | 'b' => ['\x08']
    | 'n' => ['\n']
    | 'r' => ['\r']
    | 't' => ['\t']
    | 'Z' => ['\x1a']
    | '%' => ['\\', '%']
    | '_' => ['\\', '_']
    | other => [other]
  atMostTwo character := by split <;> simp
  backslash := rfl
  quote := rfl

/-- A schema with quote marks and backslashes in its texts. -/
def filesSchema : Schema where
  id := "schema"
  name := "files"
  description := ""
  dialect := .mysql
  tables :=
    [{ id := "table"
       name := "files"
       declaredNamespace := none
       columns :=
        [⟨"first", "state", .enum, none, none, none, false, true, false,
            some (.text "it's new"), ["it's new", "it's old"], none⟩,
          ⟨"second", "path", .text, none, none, none, false, true, false, none, [], some "C:\\"⟩,
          ⟨"third", "note", .text, none, none, none, false, true, false, none, [],
            some "; DROP TABLE files; -- "⟩]
       indexes := []
       foreignKeys := []
       comment := some "like '50\\%'"}]
  relationships := []
  routines := []
  createdAt := default
  updatedAt := default

/-- The comment of the table is read as its text, with the quote marks and the backslash in it. -/
theorem literals_denote_spared_texts_in_filesSchema :
    Options.dialectFor ⟨false, none⟩ filesSchema = .mysql
      ∧ literalTexts (scriptOf ⟨false, none⟩ default filesSchema).pieces =
        ["it's new", "it's old", "it's new", "C:\\", "; DROP TABLE files; -- ", "like '50\\%'"]
      ∧ ∃ front behind, (scriptOf ⟨false, none⟩ default filesSchema).pieces =
          front ++ .literal "like '50\\%'" :: behind
        ∧ mysqlEscapes.readEscapedLiteral ((Text.quoteLiteral "like '50\\%'").toList
            ++ Piece.textOf Dialect.mysql.quoteMark behind) =
          some ("like '50\\%'".toList, Piece.textOf Dialect.mysql.quoteMark behind) := by
  obtain ⟨texts, reads⟩ := literals_denote_spared_texts mysqlEscapes default
    (rfl : Options.dialectFor ⟨false, none⟩ filesSchema = .mysql)
  have inScript : Piece.literal "like '50\\%'" ∈
      (scriptOf ⟨false, none⟩ default filesSchema).pieces := by
    decide
  obtain ⟨front, behind, split⟩ := List.append_of_mem inScript
  obtain ⟨-, denotes, -⟩ := reads front _ behind split
  exact ⟨rfl, texts.trans (by decide), front, behind, split, denotes.2 (by decide)⟩

/-- The comment of that column takes its closing mark for a part of its text, and ends where the
next comment was meant to begin: the words of this one are outside of literals. -/
theorem literal_goes_on_behind_backslash :
    let pieces := (scriptOf ⟨false, none⟩ default filesSchema).pieces
    let behind := Piece.textOf Dialect.mysql.quoteMark (pieces.drop 28)
    let read :=
      mysqlEscapes.readEscapedLiteral ((Text.quoteLiteral "C:\\").toList ++ behind)
    pieces = pieces.take 27 ++ .literal "C:\\" :: pieces.drop 28
      ∧ read ≠ some ("C:\\".toList, behind)
      ∧ read.map Prod.fst = some "C:',\n    \x60note\x60 TEXT COMMENT ".toList
      ∧ read.any ("; DROP TABLE files; -- ".toList.isPrefixOf ·.2) = true := by
  decide +kernel

end Sql

end DbSchema
