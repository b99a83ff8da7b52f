import DbSchema.Proofs.Sql.BodyTag
import DbSchema.Proofs.Sql.Legibility
import DbSchema.Proofs.Sql.Words
import DbSchema.Sql.Script

/-!
# The clauses of statements are legible

The clauses that statements are put together from are legible, whatever names, literals and comments
stand in them, and end with something else than a blank. The only text of a schema that a clause
takes over as it stands are default expressions and the languages of routines, which is what
`Schema.IsInert` is about.
-/

namespace DbSchema

/-- No default of a column or parameter is an expression, and every language of a routine is blank
or a word. -/
structure Schema.IsInert (schema : Schema) : Prop where
  columnDefaults : ∀ table ∈ schema.tables, ∀ column ∈ table.columns, ∀ text,
    column.default = some (.text text) → Sql.isExpression text = false
  parameterDefaults : ∀ routine ∈ schema.routines, ∀ parameter ∈ routine.parameters, ∀ text,
    parameter.default = some (.text text) → Sql.isExpression text = false
  languages : ∀ routine ∈ schema.routines, ∀ language, routine.language = some language →
    Text.isBlankText language = true ∨ Sql.isWord language = true

namespace Sql

section Clauses

variable {dialect : Dialect}

theorem legible_tableName (table : TableName) : Legible dialect table.pieces := by
  unfold TableName.pieces
  split
  · exact ⟨by simp [Joins], by decide, trivial, trivial⟩
  · exact ⟨trivial, trivial⟩

theorem legible_optional {α : Type} {pieces : α → List Piece} {part : Option α}
    (legible : ∀ value, part = some value → Legible dialect (pieces value)) :
    Legible dialect (optionalPieces pieces part) := by
  cases part with
  | none => trivial
  | some value => exact legible value rfl

theorem joins_optional {α : Type} {pieces : α → List Piece} (part : Option α)
    (joins : ∀ value, Joins (pieces value)) : Joins (optionalPieces pieces part) := by
  cases part with
  | none => trivial
  | some value => exact joins value

/-- A default that is no expression is legible. -/
theorem legible_defaultPiece {value : DefaultValue}
    (literal : ∀ text, value = .text text → isExpression text = false) :
    Legible dialect [defaultPiece dialect value] := by
  cases value with
  | null => exact ⟨by decide, trivial⟩
  | boolean value => exact ⟨isCalm_booleanLiteral dialect value, trivial⟩
  | number value =>
      refine ⟨?_, trivial⟩
      rw [String.toList_ofList]
      exact isCalm_numberText value
  | text value =>
      rw [defaultPiece, literal value rfl]
      exact ⟨trivial, trivial⟩

/-- The clause for a default stands behind anything. -/
theorem legible_defaultClause {value : Option Piece}
    (legible : ∀ piece, value = some piece → Legible dialect [piece]) :
    Legible dialect (optionalPieces (fun value => [.plain " DEFAULT ", value]) value) :=
  legible_optional fun piece given => ⟨by decide, legible piece given⟩

theorem joins_defaultClause (value : Option Piece) :
    Joins (optionalPieces (fun value => [.plain " DEFAULT ", value]) value) :=
  joins_optional value fun _ => by simp [Joins]

/-- The type of a column is legible. -/
theorem legible_columnType (table : String) (column : Column) :
    Legible dialect (columnType dialect table column).pieces := by
  unfold columnType
  split
  · split
    · exact ⟨isCalm_emptyEnumType dialect, trivial⟩
    · split
      · exact ⟨trivial, trivial⟩
      · refine legible_append ⟨by decide, legible_literals _⟩ ⟨by decide, trivial⟩ ?_
        simp [Joins]
  · exact ⟨isCalm_scalarType dialect _ _ _ _, trivial⟩

/-- The definition of a column is legible, if its type and its default are. -/
theorem legible_columnClause {clause : ColumnClause}
    (type : Legible dialect clause.type.pieces)
    (value : ∀ piece, clause.default = some piece → Legible dialect [piece]) :
    Legible dialect clause.pieces := by
  have word (given : Bool) {text : String} (calm : isCalm text.toList = true) :
      Legible dialect (if given then [.plain text] else []) := by
    cases given
    · trivial
    · exact ⟨calm, trivial⟩
  have joinsWord (given : Bool) {text : String} (nonempty : text ≠ "") :
      Joins (if given then [.plain text] else []) := by
    cases given
    · trivial
    · exact nonempty
  have named : Legible dialect ([.name clause.name, .plain " "] ++ clause.type.pieces) :=
    ⟨by simp [Joins], by decide, type⟩
  have comment : Legible dialect
      (optionalPieces (fun comment => .plain " " :: commentClause comment) clause.comment) :=
    legible_optional fun text _ => ⟨by decide, by decide, trivial, trivial⟩
  refine legible_append (legible_append (legible_append (legible_append named
    (word clause.notNull (by decide)) ?_) (word clause.unique (by decide)) ?_)
    (legible_defaultClause value) (joins_defaultClause _)) comment ?_
  · exact joinsWord _ (by decide)
  · exact joinsWord _ (by decide)
  · exact joins_optional _ fun _ => by simp [Joins]

/-- A foreign key constraint is legible. -/
theorem legible_referenceClause (clause : ReferenceClause) :
    Legible dialect clause.pieces := by
  have column : Legible dialect [.plain "CONSTRAINT ", .name clause.name,
      .plain " FOREIGN KEY (", .name clause.column, .plain ") REFERENCES "] :=
    ⟨by decide, by simp [Joins], by decide, by simp [Joins], by decide, trivial⟩
  have referenced : Legible dialect [.plain " (", .name clause.referencedColumn,
      .plain ") ON DELETE ", .plain clause.onDelete.keywords] :=
    ⟨by decide, by simp [Joins], by decide, isCalm_keywords _, trivial⟩
  have update : Legible dialect (optionalPieces
      (fun action => [.plain " ON UPDATE ", .plain action.keywords]) clause.onUpdate) :=
    legible_optional fun action _ => ⟨by decide, isCalm_keywords action, trivial⟩
  have table : Legible dialect ([.plain "CONSTRAINT ", .name clause.name,
      .plain " FOREIGN KEY (", .name clause.column, .plain ") REFERENCES "]
        ++ clause.table.pieces) :=
    ⟨by decide, by simp [Joins], by decide, by simp [Joins], by decide,
      legible_tableName clause.table⟩
  refine legible_append (legible_append table referenced ?_) update ?_
  · simp [Joins]
  · exact joins_optional _ fun _ => by simp [Joins]

/-- A parameter of a routine is legible, if its type is calm and its default is legible. -/
theorem legible_parameterClause {clause : ParameterClause}
    (type : isCalm clause.type.toList = true)
    (value : ∀ piece, clause.default = some piece → Legible dialect [piece]) :
    Legible dialect clause.pieces := by
  have named : Legible dialect [.name clause.name, .plain " ", .plain clause.type] :=
    ⟨by simp [Joins], by decide, type, trivial⟩
  have directed : Legible dialect (optionalPieces
      (fun direction => [.plain direction.keyword, .plain " "]) clause.direction
        ++ [.name clause.name, .plain " ", .plain clause.type]) := by
    cases clause.direction with
    | none => exact named
    | some direction => exact ⟨isCalm_directionKeyword direction, by decide, named⟩
  exact legible_append directed (legible_defaultClause value) (joins_defaultClause _)

/-- The parameters of a routine are legible, if each of them is. -/
theorem legible_parameters {parameters : List ParameterClause}
    (legible : ∀ parameter ∈ parameters, Legible dialect parameter.pieces) :
    Legible dialect (parameterPieces parameters) := by
  have list : Legible dialect (Piece.separated ", " (parameters.map ParameterClause.pieces)) :=
    legible_separated (by decide) (by decide) (by simpa using legible)
  exact legible_append ⟨by decide, list⟩ ⟨by decide, trivial⟩ (by simp [Joins])

/-- The definitions of a table are legible, if each of them is. -/
theorem legible_elements {elements : List TableElement}
    (legible : ∀ element ∈ elements, Legible dialect element.pieces) :
    Legible dialect (elementPieces elements) := by
  have list : Legible dialect (Piece.separated ",\n" (elements.map TableElement.pieces)) :=
    legible_separated (by decide) (by decide) (by simpa using legible)
  refine legible_append ⟨by decide, list⟩ ?_ ?_
  · split
    · exact ⟨by decide, trivial⟩
    · exact ⟨by decide, trivial⟩
  · split <;> simp [Joins]

/-- What follows the definitions of a table is legible. -/
theorem legible_tableOptions (comment : Option String) :
    Legible dialect (tableOptions dialect comment) := by
  cases dialect with
  | postgresql => trivial
  | mysql =>
      exact ⟨by decide, legible_optional fun text _ => ⟨by decide, trivial, trivial⟩⟩

theorem joins_tableOptions (comment : Option String) :
    Joins (tableOptions dialect comment) := by
  cases dialect with
  | postgresql => trivial
  | mysql => simp [tableOptions, Joins]

end Clauses

section Edges

/-- Whether a text has a character at either end that is no blank. -/
def IsTight (text : List Char) : Prop :=
  text.head?.any (!Text.isBlank ·) = true ∧ text.getLast?.any (!Text.isBlank ·) = true

/-- Nothing is trimmed from a tight text. -/
theorem IsTight.trim {text : List Char} (tight : IsTight text) :
    Text.trimEnd (Text.trimStart text) = text := by
  obtain ⟨starts, ends⟩ := tight
  have start : Text.trimStart text = text := by
    cases text with
    | nil => rfl
    | cons first rest =>
        have solid : Text.isBlank first = false := by simpa using starts
        rw [Text.trimStart, List.dropWhile_cons_of_neg (by simp [solid])]
  rw [start]
  rcases List.eq_nil_or_concat text with rfl | ⟨rest, last, rfl⟩
  · rfl
  · rw [List.concat_eq_append] at ends ⊢
    exact Text.dropTrailing_append_singleton rest (by simpa using ends)

variable {quote : Char}

/-- Whether the text of pieces ends with a character that is no blank. -/
def EndsSolid (quote : Char) (pieces : List Piece) : Prop :=
  (Piece.textOf quote pieces).getLast?.any (!Text.isBlank ·) = true

theorem endsSolid_append (left : List Piece) {right : List Piece} (ends : EndsSolid quote right) :
    EndsSolid quote (left ++ right) := by
  unfold EndsSolid at ends ⊢
  rw [textOf_append, List.getLast?_append]
  cases last : (Piece.textOf quote right).getLast? with
  | none => simp [last] at ends
  | some character => simpa [last] using ends

theorem endsSolid_plain {text : String}
    (ends : text.toList.getLast?.any (!Text.isBlank ·) = true) : EndsSolid quote [.plain text] := by
  simpa [EndsSolid, Piece.text] using ends

theorem endsSolid_of_last {pieces : List Piece} (text : List Char) (last : Char)
    (same : Piece.textOf quote pieces = text ++ [last]) (solid : Text.isBlank last = false) :
    EndsSolid quote pieces := by
  simp [EndsSolid, same, solid]

/-- A name ends with its mark. -/
theorem endsSolid_name (dialect : Dialect) (text : String) :
    EndsSolid dialect.quoteMark [.name text] := by
  refine endsSolid_of_last (dialect.quoteMark :: Text.doubled dialect.quoteMark text.toList)
    dialect.quoteMark (by simp [Piece.text]) ?_
  cases dialect <;> decide

/-- A literal ends with its mark. -/
theorem endsSolid_literal (text : String) : EndsSolid quote [.literal text] :=
  endsSolid_of_last ('\'' :: Text.doubled '\'' text.toList) '\''
    (by simp [Piece.text, Text.quoteLiteral]) (by decide)

/-- A body ends with the dollar sign of its tag. -/
theorem endsSolid_body {tag : String} (isTag : IsDollarTag tag.toList) (text : String) :
    EndsSolid quote [.body tag text] := by
  obtain ⟨name, same, -, -⟩ := isTag
  exact endsSolid_of_last (tag.toList ++ '\n' :: (text.toList ++ '\n' :: '$' :: name)) '$'
    (by simp [Piece.text, same]) (by decide)

/-- A foreign key constraint ends with the key words of an action. -/
theorem endsSolid_referenceClause (clause : ReferenceClause) :
    EndsSolid quote clause.pieces := by
  have keywords (action : ReferentialAction) : EndsSolid quote [.plain action.keywords] :=
    endsSolid_plain (by cases action <;> decide)
  unfold ReferenceClause.pieces
  cases clause.onUpdate with
  | none =>
      rw [optionalPieces, List.append_nil]
      exact endsSolid_append _ (endsSolid_append [.plain " (", .name clause.referencedColumn,
        .plain ") ON DELETE "] (keywords clause.onDelete))
  | some action =>
      exact endsSolid_append _ (endsSolid_append [.plain " ON UPDATE "] (keywords action))

/-- The definitions of a table end with a parenthesis. -/
theorem endsSolid_elements (elements : List TableElement) :
    EndsSolid quote (elementPieces elements) := by
  refine endsSolid_append _ (endsSolid_plain ?_)
  split <;> decide

/-- What follows the definitions of a table does not end with a blank, where there is anything. -/
theorem endsSolid_tableOptions {dialect : Dialect} {pieces : List Piece} (comment : Option String)
    (ends : EndsSolid quote pieces) : EndsSolid quote (pieces ++ tableOptions dialect comment) := by
  cases dialect with
  | postgresql => simpa [tableOptions] using ends
  | mysql =>
      refine endsSolid_append _ ?_
      cases comment with
      | none => exact endsSolid_plain (by decide)
      | some text =>
          exact endsSolid_append [.plain " ENGINE=InnoDB DEFAULT CHARSET=utf8mb4",
            .plain " COMMENT="] (endsSolid_literal text)

end Edges

end Sql

end DbSchema
