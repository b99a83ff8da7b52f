import DbSchema.Proofs.Sql.Definitions
import DbSchema.Proofs.Sql.Kinds
import DbSchema.Proofs.Sql.Statements

/-!
# Tables are read back

`readTable` finds in the text that creates a table exactly the columns of the table, in order, and
behind them its primary key, if it has one. The names, comments, values and defaults may have any
characters in them; only defaults that are expressions are left out, which the text takes over as
they stand.
-/

namespace DbSchema.Sql

/-- What the definition of a column says. A column in the primary key has no constraints of its
own. -/
def columnDefinition (column : Column) : Definition :=
  .column column.name (!column.isPrimaryKey && !column.isNullable)
    (!column.isPrimaryKey && column.isUnique) column.default.isSome

/-- What the definitions of a table say. -/
def definitionsOf (table : Table) : List Definition :=
  table.columns.map columnDefinition
    ++ if table.primaryKey.isEmpty then [] else [.primaryKey (table.primaryKey.map Column.name)]

/-- The text that creates a table, with the statements that comment on it. -/
def tableText (dialect : Dialect) (table : Table) : String :=
  textIn dialect (entryPieces (createTable dialect table))

section Elements

variable {dialect : Dialect}

/-- The entries of a table are the items between its parentheses. -/
theorem itemsOf_elementPieces {quote : Char} {elements : List TableElement} {before : List Letter}
    (behind : List Letter) (closed : ∀ letter ∈ before, letter.isPlain '(' = false)
    (keeps : ∀ element ∈ elements, KeepsDepth 0 (lettersOf quote element.pieces))
    (filled : ∀ element ∈ elements, ∃ letter ∈ lettersOf quote element.pieces,
      letter.isBlank = false) :
    ∃ items, itemsOf (before ++ (lettersOf quote (elementPieces elements) ++ behind)) =
        some (items, behind)
      ∧ List.Forall₂ (fun group item => Pads (lettersOf quote group) item)
        (elements.map TableElement.pieces) items := by
  have closedGap : ∀ letter ∈ before ++ [⟨' ', .plain⟩], letter.isPlain '(' = false :=
    List.forall_mem_append.2 ⟨closed, by decide⟩
  cases elements with
  | nil =>
      have letters : before ++ (lettersOf quote (elementPieces []) ++ behind) =
          (before ++ [⟨' ', .plain⟩])
            ++ ⟨'(', .plain⟩ :: ⟨'\n', .plain⟩ :: ⟨')', .plain⟩ :: behind := by
        simp [elementPieces, Piece.separated, Piece.role, Piece.text]
      refine ⟨[], ?_, .nil⟩
      rw [letters, itemsOf_parenthesised closedGap]
      rfl
  | cons first others =>
      have letters : before ++ (lettersOf quote (elementPieces (first :: others)) ++ behind) =
          (before ++ [⟨' ', .plain⟩]) ++ ⟨'(', .plain⟩ :: ⟨'\n', .plain⟩ ::
            (lettersOf quote
                (Piece.separated ",\n" ((first :: others).map TableElement.pieces))
              ++ ([⟨'\n', .plain⟩] ++ ⟨')', .plain⟩ :: behind)) := by
        simp [elementPieces, Piece.role, Piece.text]
      have comma : ",\n".toList = ',' :: ['\n'] := rfl
      obtain ⟨items, cut, pads⟩ := itemsFrom_separated [⟨'\n', .plain⟩] [⟨'\n', .plain⟩] behind
        comma (by decide) (by simp) (List.forall_mem_map.2 keeps) (by decide) (by decide)
      have whole := filledItems_of_pads pads (List.forall_mem_map.2 filled)
      refine ⟨items, ?_, pads⟩
      have lineEnd (rest : List Letter) :
          itemsFrom 0 [] (⟨'\n', .plain⟩ :: rest) = itemsFrom 0 [⟨'\n', .plain⟩] rest := rfl
      rw [letters, itemsOf_parenthesised closedGap, lineEnd, cut]
      simp [whole]

/-- Definitions that are read are found between the parentheses of a table. -/
theorem itemsOf_elements {elements : List TableElement} {definitions : List Definition}
    {before : List Letter} (behind : List Letter)
    (closed : ∀ letter ∈ before, letter.isPlain '(' = false)
    (keeps : ∀ element ∈ elements, KeepsDepth 0 (lettersOf dialect.quoteMark element.pieces))
    (filled : ∀ element ∈ elements, ∃ letter ∈ lettersOf dialect.quoteMark element.pieces,
      letter.isBlank = false)
    (reads : List.Forall₂ (ReadsAs dialect) elements definitions) :
    ∃ items, itemsOf (before ++ (lettersOf dialect.quoteMark (elementPieces elements) ++ behind)) =
        some (items, behind)
      ∧ items.mapM (readDefinition dialect) = some definitions := by
  obtain ⟨items, cut, pads⟩ := itemsOf_elementPieces behind closed keeps filled
  exact ⟨items, cut, mapM_of_pads pads (List.forall₂_map_left_iff.2 reads)⟩

end Elements

section Tables

variable {dialect : Dialect} {table : Table}

/-- What stands in front of the definitions of a table. -/
def tableHead (dialect : Dialect) (table : Table) : List Piece :=
  [.plain "CREATE TABLE "] ++ (nameOf dialect table).pieces

/-- The text that creates a table starts with its definitions, and what follows them does not start
with a quote mark. -/
theorem exists_text_behind_elements (dialect : Dialect) (table : Table) :
    ∃ rest, (tableText dialect table).toList =
        Piece.textOf dialect.quoteMark
            (tableHead dialect table ++ elementPieces (tableElements dialect table))
          ++ rest
      ∧ rest.head? ≠ some dialect.quoteMark ∧ rest.head? ≠ some '\'' := by
  obtain ⟨more, split⟩ : ∃ more, entryPieces (createTable dialect table) =
      (tableStatement dialect table).pieces ++ more := by
    rw [entryPieces, createTable, List.map_cons]
    cases (commentStatements dialect table).map Statement.pieces with
    | nil => exact ⟨[], by simp [Piece.separated]⟩
    | cons next others => exact ⟨_, rfl⟩
  refine ⟨Piece.textOf dialect.quoteMark (tableOptions dialect table.comment ++ .plain ";" :: more),
    ?_, ?_⟩
  · rw [tableText, textIn, String.toList_ofList, split, ← textOf_append]
    simp [tableStatement, Statement.pieces, Statement.comment, Statement.core, commentPieces,
      tableHead]
  · cases dialect <;> simp [tableOptions, Piece.text, Dialect.quoteMark]

/-- Nothing in front of the definitions of a table with a name opens a parenthesis. -/
theorem closed_named (quote : Char) (name : TableName) :
    ∀ letter ∈ lettersOf quote ([.plain "CREATE TABLE "] ++ name.pieces),
      letter.isPlain '(' = false := by
  have keywords :
      ∀ letter ∈ lettersAs .plain "CREATE TABLE ".toList, letter.isPlain '(' = false := by
    decide
  rw [lettersOf_append, List.forall_mem_append]
  exact ⟨keywords, closed_tableName quote name⟩

/-- Nothing in front of the definitions of a table opens a parenthesis. -/
theorem closed_tableHead (dialect : Dialect) (table : Table) :
    ∀ letter ∈ lettersOf dialect.quoteMark (tableHead dialect table),
      letter.isPlain '(' = false :=
  closed_named dialect.quoteMark (nameOf dialect table)

variable (literal : ∀ column ∈ table.columns, ∀ text, column.default = some (.text text) →
  isExpression text = false)

include literal

/-- The type and the default of a column clause of a table are tame. -/
theorem isTame_of_mem_columns (dialect : Dialect) {column : Column}
    (member : column ∈ table.columns) :
    let clause := columnClause dialect table.name column
    IsTame (lettersOf dialect.quoteMark clause.type.pieces)
      ∧ ∀ piece, clause.default = some piece →
        IsTame (lettersOf dialect.quoteMark [piece]) := by
  refine ⟨isTame_columnType _ dialect table.name column, fun piece given => ?_⟩
  obtain ⟨value, isDefault, rfl⟩ := Option.map_eq_some_iff.1 given
  exact isTame_defaultPiece _ dialect fun text same =>
    literal column member text (by rw [isDefault, same])

/-- The definitions of a table are read as what they say. -/
theorem readsAs_elements (dialect : Dialect) :
    List.Forall₂ (ReadsAs dialect) (tableElements dialect table) (definitionsOf table) := by
  refine List.rel_append ?_ ?_
  · rw [List.forall₂_map_left_iff, List.forall₂_map_right_iff, List.forall₂_same]
    intro column member
    obtain ⟨type, value⟩ := isTame_of_mem_columns literal dialect member
    simpa [columnDefinition, columnClause] using readsAs_column type value
  · unfold primaryKeyElements
    split
    case isTrue => exact .nil
    case isFalse some => exact .cons (readsAs_primaryKey (by simpa using some)) .nil

/-- The definitions of a table are legible, are not cut, and are not blank. -/
theorem elements_of_table {element : TableElement}
    (member : element ∈ tableElements dialect table) :
    Legible dialect element.pieces
      ∧ KeepsDepth 0 (lettersOf dialect.quoteMark element.pieces)
      ∧ ∃ letter ∈ lettersOf dialect.quoteMark element.pieces, letter.isBlank = false := by
  obtain ⟨column, inTable, rfl⟩ | ⟨-, rfl⟩ := mem_tableElements.1 member
  · obtain ⟨type, value⟩ := isTame_of_mem_columns literal dialect inTable
    exact ⟨legible_columnElement table.name (literal column inTable), keepsDepth_column type value,
      filled_column _⟩
  · exact ⟨legible_primaryKey _, keepsDepth_primaryKey _ _, filled_primaryKey _⟩

end Tables

/-- The text that creates a table is read back as the columns of the table, in order, and behind
them the primary key, if there is one: between the parentheses stand just these definitions, each
column with its name and with the constraints and the default that it has. -/
theorem createTable_reads_back (dialect : Dialect) (table : Table)
    (literal : ∀ column ∈ table.columns, ∀ text, column.default = some (.text text) →
      isExpression text = false) :
    readTable dialect (tableText dialect table).toList = some (definitionsOf table) := by
  obtain ⟨rest, split, ends⟩ := exists_text_behind_elements dialect table
  have legible : Legible dialect
      (tableHead dialect table ++ elementPieces (tableElements dialect table)) := by
    have named : Legible dialect (tableHead dialect table) :=
      ⟨by decide, legible_tableName (nameOf dialect table)⟩
    exact legible_append named
      (legible_elements fun element member => (elements_of_table literal member).1)
      (by simp [elementPieces, Joins])
  have read := scan_textOf legible ends
  obtain ⟨items, cut, definitions⟩ := itemsOf_elements (scan dialect .plain rest).letters
    (closed_tableHead dialect table)
    (fun element member => (elements_of_table literal member).2.1)
    (fun element member => (elements_of_table literal member).2.2)
    (readsAs_elements literal dialect)
  rw [readTable, split, read, Scan.after]
  dsimp only
  rw [lettersOf_append, List.append_assoc, cut]
  exact definitions

/-- A table whose names, values, defaults and comments look like parts of definitions. -/
def misleadingTable : Table where
  id := "table"
  name := "t` (\n    `x` INT,"
  declaredNamespace := some "q\"("
  columns :=
    [⟨"first", "a`, \"(", .decimal, none, some 12, some 3, true, false, true, none, [],
        some "it's, NOT NULL UNIQUE DEFAULT ("⟩,
      ⟨"second", "NOT NULL", .enum, none, none, none, false, true, false,
        some (.text "', UNIQUE)"), ["a,b)", "('", "UNIQUE"], none⟩,
      ⟨"third", "", .char, some 3, none, none, false, false, true, none, [], some "); --"⟩,
      ⟨"fourth", "PRIMARY KEY (", .boolean, none, none, none, true, true, false,
        some (.boolean false), [], none⟩]
  indexes := []
  foreignKeys := []
  comment := some "'), DEFAULT (\n"

/-- Such a table is still read back as its four columns and its primary key. -/
theorem createTable_reads_back_misleadingTable :
    (∀ column ∈ misleadingTable.columns, ∀ text, column.default = some (.text text) →
        isExpression text = false)
      ∧ definitionsOf misleadingTable =
        [.column "a`, \"(" false false false, .column "NOT NULL" false false true,
          .column "" true true false, .column "PRIMARY KEY (" false false true,
          .primaryKey ["a`, \"(", "PRIMARY KEY ("]]
      ∧ readTable .mysql (tableText .mysql misleadingTable).toList =
        some (definitionsOf misleadingTable)
      ∧ readTable .postgresql (tableText .postgresql misleadingTable).toList =
        some (definitionsOf misleadingTable) := by
  have literal : ∀ column ∈ misleadingTable.columns, ∀ text,
      column.default = some (.text text) → isExpression text = false := by
    simp [misleadingTable]
    decide
  exact ⟨literal, by decide, createTable_reads_back .mysql misleadingTable literal,
    createTable_reads_back .postgresql misleadingTable literal⟩

end DbSchema.Sql
