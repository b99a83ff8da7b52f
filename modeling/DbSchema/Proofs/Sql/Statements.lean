import DbSchema.Proofs.Sql.Kinds
import DbSchema.Proofs.Sql.Templates
import DbSchema.Proofs.Text.Stretches

/-!
# Statements are cut out whole

Every statement of a schema `IsCuttable`: its comment lines are lines, what it says is legible, and
no blanks stand around it. The statements of one kind are proved at once from their clauses, and
`isCuttable_of_mem_statementsOf` collects the kinds.
-/

namespace DbSchema.Sql

/-- Whether a statement can be told from its comment lines and from the statements around it. -/
structure Statement.IsCuttable (dialect : Dialect) (statement : Statement) : Prop where
  comment : ∀ line ∈ statement.comment, '\n' ∉ line.toList
  legible : Legible dialect statement.core
  tight : IsTight (Piece.textOf dialect.quoteMark statement.core)

section CommentLines

/-- Lines are made from the stretches between line feeds. -/
theorem exists_stretch_of_mem_lines {stretches : List (List Char)} {line : List Char}
    (member : line ∈ Text.linesOfStretches stretches) :
    ∃ stretch ∈ stretches, line <+: stretch := by
  induction stretches with
  | nil => simp [Text.linesOfStretches] at member
  | cons first rest inductionHypothesis =>
      cases rest with
      | nil =>
          refine ⟨first, by simp, ?_⟩
          rw [Text.linesOfStretches] at member
          split at member
          · simp at member
          · obtain rfl : line = first := by simpa using member
            exact List.prefix_rfl
      | cons second rest =>
          rcases List.mem_cons.1 member with rfl | member
          · refine ⟨first, by simp, ?_⟩
            unfold Text.dropCarriageReturn
            split
            · exact List.dropLast_prefix _
            · exact List.prefix_rfl
          · obtain ⟨stretch, inRest, starts⟩ := inductionHypothesis member
            exact ⟨stretch, by simp [inRest], starts⟩

/-- No line has a line feed in it. -/
theorem oneLine_of_mem_lines {text line : String} (member : line ∈ Text.lines text) :
    '\n' ∉ line.toList := by
  obtain ⟨characters, inLines, rfl⟩ := List.mem_map.1 member
  obtain ⟨stretch, inText, starts⟩ := exists_stretch_of_mem_lines inLines
  rw [String.toList_ofList]
  exact fun feed => Text.not_mem_of_mem_splitOn inText (starts.subset feed)

/-- No comment line has a line feed in it. -/
theorem oneLine_of_mem_commentLines {text line : String} (member : line ∈ commentLines text) :
    '\n' ∉ line.toList := by
  obtain ⟨whole, inText, rfl⟩ := List.mem_map.1 member
  have oneLine := oneLine_of_mem_lines inText
  rw [String.toList_ofList]
  intro feed
  rcases List.mem_cons.1 ((Text.dropTrailing_prefix _ _).subset feed) with space | feed
  · simp at space
  · exact oneLine feed

/-- The comment lines of a routine are lines. -/
theorem oneLine_of_mem_routineComment {routine : Routine} {line : String}
    (member : line ∈ routineComment routine) : '\n' ∉ line.toList := by
  unfold routineComment at member
  cases comment : routine.comment with
  | none => simp [comment] at member
  | some text => exact oneLine_of_mem_commentLines (by simpa [comment] using member)

end CommentLines

section Kinds

variable {dialect : Dialect}

/-- A statement without comment lines is cuttable, if it starts with key words and does not end
with a blank. -/
theorem isCuttable_of_core {statement : Statement} {keyword : String} {rest : List Piece}
    (uncommented : statement.comment = []) (core : statement.core = .plain keyword :: rest)
    (starts : keyword.toList.head?.any (!Text.isBlank ·) = true)
    (legible : Legible dialect statement.core)
    (ends : EndsSolid dialect.quoteMark statement.core) : statement.IsCuttable dialect := by
  refine ⟨by simp [uncommented], legible, ?_, ends⟩
  rw [core, textOf_cons, Piece.text]
  cases characters : keyword.toList with
  | nil => simp [characters] at starts
  | cons first others => simpa [characters] using starts

theorem isCuttable_createNamespace (name : String) :
    (Statement.createNamespace name).IsCuttable dialect :=
  isCuttable_of_core rfl rfl (by decide) ⟨by decide, trivial, trivial⟩
    (endsSolid_append [.plain "CREATE SCHEMA IF NOT EXISTS "] (endsSolid_name dialect name))

theorem isCuttable_createEnum (name : String) (values : List String) :
    (Statement.createEnum name values).IsCuttable dialect := by
  have opened : Legible dialect ([.plain "CREATE TYPE ", .name name, .plain " AS ENUM ("]
      ++ Piece.literals values) :=
    ⟨by decide, by simp [Joins], by decide, legible_literals values⟩
  exact isCuttable_of_core rfl rfl (by decide)
    (legible_append opened ⟨by decide, trivial⟩ (by simp [Joins]))
    (endsSolid_append _ (endsSolid_plain (by decide)))

theorem isCuttable_createTable (table : TableName) {elements : List TableElement}
    (comment : Option String) (legible : ∀ element ∈ elements, Legible dialect element.pieces) :
    (Statement.createTable table elements (tableOptions dialect comment)).IsCuttable dialect := by
  have named : Legible dialect ([.plain "CREATE TABLE "] ++ table.pieces) :=
    ⟨by decide, legible_tableName table⟩
  have defined : Legible dialect ([.plain "CREATE TABLE "] ++ table.pieces
      ++ elementPieces elements) :=
    legible_append named (legible_elements legible) (by simp [elementPieces, Joins])
  exact isCuttable_of_core rfl rfl (by decide)
    (legible_append defined (legible_tableOptions comment) (joins_tableOptions comment))
    (endsSolid_tableOptions comment (endsSolid_append _ (endsSolid_elements elements)))

theorem isCuttable_commentOnTable (table : TableName) (comment : String) :
    (Statement.commentOnTable table comment).IsCuttable dialect := by
  have named : Legible dialect ([.plain "COMMENT ON TABLE "] ++ table.pieces) :=
    ⟨by decide, legible_tableName table⟩
  exact isCuttable_of_core rfl rfl (by decide)
    (legible_append named ⟨by decide, trivial, trivial⟩ (by simp [Joins]))
    (endsSolid_append _ (endsSolid_append [.plain " IS "] (endsSolid_literal comment)))

theorem isCuttable_commentOnColumn (table : TableName) (column comment : String) :
    (Statement.commentOnColumn table column comment).IsCuttable dialect := by
  have named : Legible dialect ([.plain "COMMENT ON COLUMN "] ++ table.pieces) :=
    ⟨by decide, legible_tableName table⟩
  exact isCuttable_of_core rfl rfl (by decide)
    (legible_append named ⟨by decide, by simp [Joins], by decide, trivial, trivial⟩
      (by simp [Joins]))
    (endsSolid_append _ (endsSolid_append [.plain ".", .name column, .plain " IS "]
      (endsSolid_literal comment)))

theorem isCuttable_createIndex (unique : Bool) (name : String) (table : TableName)
    (method : Option IndexMethod) (columns : List String) :
    (Statement.createIndex unique name table method columns).IsCuttable dialect := by
  have opened : Legible dialect ([.plain (if unique then "CREATE UNIQUE INDEX "
      else "CREATE INDEX "), .name name, .plain " ON "] ++ table.pieces) :=
    ⟨by cases unique <;> decide, by simp [Joins], by decide, legible_tableName table⟩
  have found : Legible dialect
      (optionalPieces (fun method => [.plain " USING ", .plain method.keyword]) method) :=
    legible_optional fun method _ => ⟨by decide, isCalm_methodKeyword method, trivial⟩
  have named : Legible dialect ([.plain " ("] ++ Piece.names columns ++ [.plain ")"]) :=
    legible_append ⟨by decide, legible_names columns⟩ ⟨by decide, trivial⟩ (by simp [Joins])
  have whole := legible_append (legible_append opened found
    (joins_optional method fun _ => by simp [Joins])) named (by simp [Joins])
  refine isCuttable_of_core rfl rfl (by cases unique <;> decide) ?_
    (endsSolid_append _ (endsSolid_plain (by decide)))
  simpa [Statement.core] using whole

theorem isCuttable_addReference (table : TableName) (clause : ReferenceClause) :
    (Statement.addReference table clause).IsCuttable dialect := by
  have named : Legible dialect ([.plain "ALTER TABLE "] ++ table.pieces) :=
    ⟨by decide, legible_tableName table⟩
  have added : Legible dialect ([.plain "ALTER TABLE "] ++ table.pieces ++ [.plain " ADD "]) :=
    legible_append named ⟨by decide, trivial⟩ (by simp [Joins])
  refine isCuttable_of_core rfl rfl (by decide) ?_
    (endsSolid_append _ (endsSolid_referenceClause clause))
  exact legible_append added (legible_referenceClause clause)
    (by simp [ReferenceClause.pieces, Joins])

/-- A function whose body is between tags that do not occur in it is cuttable. -/
theorem isCuttable_createFunction {comment : List String} (name : String)
    {parameters : List ParameterClause} {returns language tag body : String}
    (oneLine : ∀ line ∈ comment, '\n' ∉ line.toList)
    (legible : ∀ parameter ∈ parameters, Legible .postgresql parameter.pieces)
    (calmReturns : isCalm returns.toList = true) (calmLanguage : isCalm language.toList = true)
    (isTag : IsDollarTag tag.toList) (absent : ¬tag.toList <:+: body.toList) :
    (Statement.createFunction comment name parameters returns language tag body).IsCuttable
      .postgresql := by
  have opened : Legible .postgresql ([.plain "CREATE OR REPLACE FUNCTION ", .name name]
      ++ parameterPieces parameters) :=
    ⟨by decide, by simp [parameterPieces, Joins], legible_parameters legible⟩
  have described : Legible .postgresql [.plain "\nRETURNS ", .plain returns, .plain "\nLANGUAGE ",
      .verbatim language, .plain "\nAS ", .body tag body] :=
    ⟨by decide, calmReturns, by decide, calmLanguage, by decide, rfl, isTag, absent, trivial⟩
  refine ⟨oneLine, legible_append opened described (by simp [Joins]), rfl, ?_⟩
  exact endsSolid_append _ (endsSolid_append [.plain "\nRETURNS ", .plain returns,
    .plain "\nLANGUAGE ", .verbatim language, .plain "\nAS "] (endsSolid_body isTag body))

end Kinds

section Schemas

variable {dialect : Dialect} {schema : Schema}

theorem isCuttable_of_mem_createNamespaces {statement : Statement}
    (member : statement ∈ createNamespaces dialect schema) : statement.IsCuttable dialect := by
  obtain ⟨-, _, -, name, -, rfl⟩ := mem_createNamespaces.1 member
  exact isCuttable_createNamespace name

theorem isCuttable_of_mem_createEnums {statement : Statement}
    (member : statement ∈ createEnums dialect schema) : statement.IsCuttable dialect := by
  obtain ⟨-, _, -, _, -, -, rfl⟩ := mem_createEnums.1 member
  exact isCuttable_createEnum _ _

theorem isCuttable_of_mem_commentStatements {table : Table} {statement : Statement}
    (member : statement ∈ commentStatements dialect table) : statement.IsCuttable dialect := by
  obtain ⟨-, ⟨comment, -, rfl⟩ | ⟨column, -, comment, -, rfl⟩⟩ := mem_commentStatements.1 member
  · exact isCuttable_commentOnTable _ comment
  · exact isCuttable_commentOnColumn _ column.name comment

/-- The definition of a column whose default is no expression is legible. -/
theorem legible_columnElement (table : String) {column : Column}
    (literal : ∀ text, column.default = some (.text text) → isExpression text = false) :
    Legible dialect (TableElement.column (columnClause dialect table column)).pieces := by
  refine ⟨by decide, legible_columnClause (legible_columnType table column) ?_⟩
  intro piece given
  obtain ⟨value, isDefault, rfl⟩ := Option.map_eq_some_iff.1 given
  exact legible_defaultPiece fun text same => literal text (by rw [isDefault, same])

/-- The primary key of a table is legible. -/
theorem legible_primaryKey (columns : List String) :
    Legible dialect (TableElement.primaryKey columns).pieces :=
  legible_append ⟨by decide, legible_names columns⟩ ⟨by decide, trivial⟩ (by simp [Joins])

theorem isCuttable_of_mem_createTables (inert : schema.IsInert) {statement : Statement}
    (member : statement ∈ (createTables dialect schema).flatten) :
    statement.IsCuttable dialect := by
  obtain ⟨table, inSchema, rfl | comment⟩ := mem_createTables.1 member
  case inr => exact isCuttable_of_mem_commentStatements comment
  refine isCuttable_createTable _ table.comment fun element inTable => ?_
  obtain ⟨column, inColumns, rfl⟩ | ⟨-, rfl⟩ := mem_tableElements.1 inTable
  · exact legible_columnElement table.name (inert.columnDefaults table inSchema column inColumns)
  · exact legible_primaryKey _

theorem isCuttable_of_mem_createIndexes {statement : Statement}
    (member : statement ∈ createIndexes dialect schema) : statement.IsCuttable dialect := by
  obtain ⟨_, -, _, -, rfl⟩ := mem_createIndexes.1 member
  exact isCuttable_createIndex _ _ _ _ _

theorem isCuttable_of_mem_addForeignKeys {statement : Statement}
    (member : statement ∈ addForeignKeys dialect schema) : statement.IsCuttable dialect := by
  obtain ⟨_, -, _, -, rfl⟩ := mem_addForeignKeys.1 member
  exact isCuttable_addReference _ _

/-- A column of a junction table is legible, if its default is. -/
theorem legible_junctionColumn (name : String) (type : ColumnType) {value : Option Piece}
    (legible : ∀ piece, value = some piece → Legible dialect [piece]) :
    Legible dialect (junctionColumn dialect name type value).pieces :=
  ⟨by decide, legible_columnClause ⟨isCalm_typeKeyword dialect type, trivial⟩ legible⟩

/-- The statement for a junction table is cuttable, whatever names it has. -/
theorem isCuttable_junctionStatement (schema : Schema) (relationship : Relationship)
    (junction : JunctionTable) :
    (junctionStatement dialect schema relationship junction).IsCuttable dialect := by
  refine isCuttable_createTable _ none fun element inTable => ?_
  simp only [List.mem_cons, List.not_mem_nil, or_false] at inTable
  rcases inTable with rfl | rfl | rfl | rfl | rfl | rfl
  · exact legible_junctionColumn _ _ (by simp)
  · exact legible_junctionColumn _ _ (by simp)
  · refine legible_junctionColumn _ _ fun piece given => ?_
    obtain rfl := Option.some.inj given
    exact ⟨by decide, trivial⟩
  · exact legible_primaryKey _
  · exact ⟨by decide, legible_referenceClause _⟩
  · exact ⟨by decide, legible_referenceClause _⟩

theorem isCuttable_of_mem_createJunctions {statement : Statement}
    (member : statement ∈ createJunctions dialect schema) : statement.IsCuttable dialect := by
  obtain ⟨relationship, -, -, junction, -, rfl⟩ := mem_createJunctions.1 member
  exact isCuttable_junctionStatement schema relationship junction

/-- A function of an inert schema is cuttable. -/
theorem isCuttable_createRoutine (inert : schema.IsInert) {routine : Routine}
    (inSchema : routine ∈ schema.routines) :
    (createRoutine .postgresql routine).IsCuttable .postgresql := by
  refine isCuttable_createFunction routine.name
    (fun _ member => oneLine_of_mem_routineComment member) ?_ (isCalm_returnWords _ _)
    (isCalm_languageOf (inert.languages routine inSchema)) (isDollarTag_bodyTag _)
    (bodyTag_absent _)
  intro clause member
  obtain ⟨parameter, inRoutine, rfl⟩ := List.mem_map.1 member
  refine legible_parameterClause (isCalm_routineType _ _) fun piece given => ?_
  obtain ⟨value, isDefault, rfl⟩ := Option.map_eq_some_iff.1 given
  exact legible_defaultPiece fun text same =>
    inert.parameterDefaults routine inSchema parameter inRoutine text (by rw [isDefault, same])

/-- Every statement of an inert schema is cuttable, if its routines are functions. -/
theorem isCuttable_of_mem_statementsOf (inert : schema.IsInert)
    (functions : dialect = .mysql → schema.routines = []) {statement : Statement}
    (member : statement ∈ statementsOf dialect schema) : statement.IsCuttable dialect := by
  rcases mem_statementsOf.1 member with member | member | member | member | member | member | member
  · exact isCuttable_of_mem_createNamespaces member
  · exact isCuttable_of_mem_createEnums member
  · exact isCuttable_of_mem_createTables inert member
  · exact isCuttable_of_mem_createIndexes member
  · exact isCuttable_of_mem_addForeignKeys member
  · exact isCuttable_of_mem_createJunctions member
  · obtain ⟨routine, inSchema, rfl⟩ := List.mem_map.1 member
    cases dialect with
    | postgresql => exact isCuttable_createRoutine inert inSchema
    | mysql => simp [functions rfl] at inSchema

end Schemas

end DbSchema.Sql
