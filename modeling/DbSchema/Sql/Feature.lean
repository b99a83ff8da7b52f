import DbSchema.Schema.Basic
import DbSchema.Text.Search

/-!
# What the dialects differ in

The quote marks, literals, type names and abilities of each dialect, and the types of columns and
routines in its words. Everything else about SQL text is the same for both.
-/

namespace DbSchema

namespace Dialect

/-- The mark around names. -/
def quoteMark : Dialect → Char
  | postgresql => '"'
  | mysql => '\x60'

/-- A truth value. -/
def booleanLiteral : Dialect → Bool → String
  | postgresql, value => if value then "TRUE" else "FALSE"
  | mysql, value => if value then "1" else "0"

/-- Whether table names are qualified by a namespace. -/
def hasNamespaces : Dialect → Bool
  | postgresql => true
  | mysql => false

/-- Whether enumerations are types with a name, declared apart from the columns that use them. -/
def declaresEnums : Dialect → Bool
  | postgresql => true
  | mysql => false

/-- Whether an index may name its method. -/
def hasIndexMethods : Dialect → Bool
  | postgresql => true
  | mysql => false

/-- Whether comments belong to the definitions they describe, and are not statements. -/
def commentsInline : Dialect → Bool
  | postgresql => false
  | mysql => true

/-- The words for a column type, without its length or precision. -/
def typeKeyword : Dialect → ColumnType → String
  | postgresql, type =>
    match type with
    | .integer => "INTEGER"
    | .bigint => "BIGINT"
    | .smallint => "SMALLINT"
    | .serial => "SERIAL"
    | .bigserial => "BIGSERIAL"
    | .varchar => "VARCHAR"
    | .text => "TEXT"
    | .char => "CHAR"
    | .boolean => "BOOLEAN"
    | .date => "DATE"
    | .timestamp => "TIMESTAMP"
    | .timestamptz => "TIMESTAMPTZ"
    | .time => "TIME"
    | .decimal => "DECIMAL"
    | .numeric => "NUMERIC"
    | .float => "REAL"
    | .double => "DOUBLE PRECISION"
    | .json => "JSON"
    | .jsonb => "JSONB"
    | .uuid => "UUID"
    | .blob => "BYTEA"
    | .enum => "TEXT"
  | mysql, type =>
    match type with
    | .integer => "INT"
    | .bigint => "BIGINT"
    | .smallint => "SMALLINT"
    | .serial => "INT AUTO_INCREMENT"
    | .bigserial => "BIGINT AUTO_INCREMENT"
    | .varchar => "VARCHAR"
    | .text => "TEXT"
    | .char => "CHAR"
    | .boolean => "TINYINT(1)"
    | .date => "DATE"
    | .timestamp => "DATETIME"
    | .timestamptz => "TIMESTAMP"
    | .time => "TIME"
    | .decimal | .numeric => "DECIMAL"
    | .float => "FLOAT"
    | .double => "DOUBLE"
    | .json | .jsonb => "JSON"
    | .uuid => "CHAR(36)"
    | .blob => "BLOB"
    | .enum => "ENUM"

/-- The type that stands for an enumeration without values. -/
def emptyEnumType : Dialect → String
  | postgresql => "TEXT"
  | mysql => "VARCHAR(255)"

/-- The length of a character type that gives none. -/
def defaultLength : UInt32 := 255

/-- The precision of a fixed point type that gives none. -/
def defaultPrecision : UInt32 := 10

/-- The scale of a fixed point type that gives none. -/
def defaultScale : UInt32 := 2

/-- The digits of a natural number of 32 bits. -/
def digits (value : UInt32) : String :=
  .ofList (naturalText value.toNat)

/-- The words for a column type with its length or its precision and scale, where it takes them. -/
def scalarType (dialect : Dialect) (type : ColumnType) (length precision scale : Option UInt32) :
    String :=
  let keyword := dialect.typeKeyword type
  if type.takesLength then keyword ++ "(" ++ digits (length.getD defaultLength) ++ ")"
  else if type.takesPrecision then
    keyword ++ "(" ++ digits (precision.getD defaultPrecision) ++ ","
      ++ digits (scale.getD defaultScale) ++ ")"
  else keyword

/-- The words for the type of a parameter or of a returned value. Routines have no values to
enumerate. -/
def routineType (dialect : Dialect) (type : ColumnType) : String :=
  if type = .enum then dialect.emptyEnumType else dialect.scalarType type none none none

end Dialect

end DbSchema
