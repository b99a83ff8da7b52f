import DbSchema.Sql.Feature
import DbSchema.Sql.Piece
import DbSchema.Text.Case

/-!
# Defaults

Defaults in SQL. A text that mentions one of a few functions is taken to be an expression and is
written as it stands; every other text is a literal.
-/

namespace DbSchema.Sql

/-- The mentions that make a text an expression. -/
def expressionMarkers : List String :=
  ["CURRENT_TIMESTAMP", "NOW()", "UUID"]

/-- A text is an expression exactly when its upper case form mentions a marker. -/
def isExpression (text : String) : Bool :=
  let upper := Text.toUpper text
  expressionMarkers.any fun marker => Text.occursIn marker upper

/-- A default value in a dialect. -/
def defaultPiece (dialect : Dialect) : DefaultValue → Piece
  | .null => .plain "NULL"
  | .boolean value => .plain (dialect.booleanLiteral value)
  | .number value => .plain (.ofList value.text)
  | .text value => if isExpression value then .verbatim value else .literal value

/-- The text of a default value in a dialect. -/
def defaultText (dialect : Dialect) (value : DefaultValue) : String :=
  .ofList ((defaultPiece dialect value).text dialect.quoteMark)

end DbSchema.Sql
