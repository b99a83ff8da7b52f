import DbSchema.Text.Case

/-!
# Vocabulary

The closed sets of words that a schema is made of: dialects, column types, cardinalities,
referential actions, index methods, parameter directions and return types, each with its tag. Tags
name their members: looking one up in the list of all members finds the member it belongs to.
-/

namespace DbSchema

/-- Why a word is none of the vocabulary. -/
inductive VocabularyError where
  | unknownDialect (word : String)
  | unknownColumnType (word : String)
  deriving DecidableEq, Repr

/-- The text of the error. -/
def VocabularyError.message : VocabularyError → String
  | unknownDialect word => "unknown dialect '" ++ word ++ "', expected postgresql or mysql"
  | unknownColumnType word => "unknown column type '" ++ word ++ "'"

/-- The dialect of SQL that a schema is written for. -/
inductive Dialect where
  | postgresql
  | mysql
  deriving DecidableEq, Repr, Inhabited

namespace Dialect

/-- All dialects, in declaration order. -/
def all : List Dialect := [postgresql, mysql]

/-- The name shown to people. -/
def label : Dialect → String
  | postgresql => "PostgreSQL"
  | mysql => "MySQL"

/-- The tag in data. -/
def tag : Dialect → String
  | postgresql => "postgresql"
  | mysql => "mysql"

/-- The tags that data may use; one dialect has two. -/
def tags : List (String × Dialect) :=
  [("postgres", postgresql), ("postgresql", postgresql), ("mysql", mysql)]

/-- Reads the name of a dialect in any letter case. The error shows the name in lower case. -/
def ofText? (text : String) : Except VocabularyError Dialect :=
  let word := Text.toLower text
  if word == "postgresql" || word == "postgres" || word == "pg" then .ok postgresql
  else if word == "mysql" then .ok mysql
  else .error (.unknownDialect word)

end Dialect

/-- The type of a column, independent of any dialect. Length, precision and scale belong to the
column. -/
inductive ColumnType where
  | integer
  | bigint
  | smallint
  | serial
  | bigserial
  | varchar
  | text
  | char
  | boolean
  | date
  | timestamp
  | timestamptz
  | time
  | decimal
  | numeric
  | float
  | double
  | json
  | jsonb
  | uuid
  | blob
  | enum
  deriving DecidableEq, Repr, Inhabited

namespace ColumnType

/-- All column types, in declaration order. -/
def all : List ColumnType :=
  [integer, bigint, smallint, serial, bigserial, varchar, text, char, boolean, date, timestamp,
    timestamptz, time, decimal, numeric, float, double, json, jsonb, uuid, blob, enum]

/-- The tag in data. -/
def tag : ColumnType → String
  | integer => "integer"
  | bigint => "bigint"
  | smallint => "smallint"
  | serial => "serial"
  | bigserial => "bigserial"
  | varchar => "varchar"
  | text => "text"
  | char => "char"
  | boolean => "boolean"
  | date => "date"
  | timestamp => "timestamp"
  | timestamptz => "timestamptz"
  | time => "time"
  | decimal => "decimal"
  | numeric => "numeric"
  | float => "float"
  | double => "double"
  | json => "json"
  | jsonb => "jsonb"
  | uuid => "uuid"
  | blob => "blob"
  | enum => "enum"

/-- Exactly the character types of bounded width take a length. -/
def takesLength : ColumnType → Bool
  | varchar | char => true
  | _ => false

/-- Exactly the fixed point types take a precision and a scale. -/
def takesPrecision : ColumnType → Bool
  | decimal | numeric => true
  | _ => false

/-- Reads the tag of a column type in any letter case. The error shows the text as it was given. -/
def ofText? (text : String) : Except VocabularyError ColumnType :=
  let word := Text.toLower text
  match all.find? fun type => type.tag == word with
  | some type => .ok type
  | none => .error (.unknownColumnType text)

end ColumnType

/-- How many rows of one table go with how many of another. -/
inductive Cardinality where
  | oneToOne
  | oneToMany
  | manyToMany
  deriving DecidableEq, Repr, Inhabited

namespace Cardinality

/-- All cardinalities, in declaration order. -/
def all : List Cardinality := [oneToOne, oneToMany, manyToMany]

/-- The tag in data. -/
def tag : Cardinality → String
  | oneToOne => "one-to-one"
  | oneToMany => "one-to-many"
  | manyToMany => "many-to-many"

end Cardinality

/-- What happens to a row when the row that it refers to is deleted or its key updated. -/
inductive ReferentialAction where
  | cascade
  | setNull
  | setDefault
  | restrict
  | noAction
  deriving DecidableEq, Repr

namespace ReferentialAction

instance : Inhabited ReferentialAction := ⟨noAction⟩

/-- All actions, in declaration order. -/
def all : List ReferentialAction := [cascade, setNull, setDefault, restrict, noAction]

/-- The key words of the action; they are its tag in data too. -/
def keywords : ReferentialAction → String
  | cascade => "CASCADE"
  | setNull => "SET NULL"
  | setDefault => "SET DEFAULT"
  | restrict => "RESTRICT"
  | noAction => "NO ACTION"

end ReferentialAction

/-- How an index finds its rows. -/
inductive IndexMethod where
  | btree
  | hash
  | gin
  | gist
  deriving DecidableEq, Repr, Inhabited

namespace IndexMethod

/-- All methods, in declaration order. -/
def all : List IndexMethod := [btree, hash, gin, gist]

/-- The key word of the method. -/
def keyword : IndexMethod → String
  | btree => "BTREE"
  | hash => "HASH"
  | gin => "GIN"
  | gist => "GIST"

/-- The tag in data. -/
def tag : IndexMethod → String
  | btree => "btree"
  | hash => "hash"
  | gin => "gin"
  | gist => "gist"

end IndexMethod

/-- Whether a parameter passes a value into a routine, out of it, or both ways. -/
inductive ParameterDirection where
  | input
  | output
  | inout
  deriving DecidableEq, Repr, Inhabited

namespace ParameterDirection

/-- All directions, in declaration order. -/
def all : List ParameterDirection := [input, output, inout]

/-- The key word of the direction; it is its tag in data too. -/
def keyword : ParameterDirection → String
  | input => "IN"
  | output => "OUT"
  | inout => "INOUT"

end ParameterDirection

/-- What a routine returns: nothing, rows, or one value. -/
inductive ReturnType where
  | void
  | table
  | scalar (type : ColumnType)
  deriving DecidableEq, Repr, Inhabited

namespace ReturnType

/-- The tag in data. -/
def tag : ReturnType → String
  | void => "void"
  | table => "table"
  | scalar type => type.tag

/-- Reads a return type in any letter case. The error shows the text in lower case. -/
def ofText? (text : String) : Except VocabularyError ReturnType :=
  let word := Text.toLower text
  if word == "void" then .ok void
  else if word == "table" then .ok table
  else (ColumnType.ofText? word).map scalar

end ReturnType

/-- The file formats that a schema can be exported to. -/
inductive ExportFormat where
  | sql
  | diagram
  | json
  deriving DecidableEq, Repr, Inhabited

namespace ExportFormat

/-- All formats, in declaration order. -/
def all : List ExportFormat := [sql, diagram, json]

/-- The tag in data. -/
def tag : ExportFormat → String
  | sql => "sql"
  | diagram => "diagram"
  | json => "json"

/-- The file name extension. -/
def extension : ExportFormat → String
  | sql => "sql"
  | diagram => "mmd"
  | json => "json"

end ExportFormat

/-- Every column type is among all of them. -/
theorem ColumnType.mem_all (type : ColumnType) : type ∈ ColumnType.all := by
  cases type <;> decide

/-- Every dialect is among all of them. -/
theorem Dialect.mem_all (dialect : Dialect) : dialect ∈ Dialect.all := by
  cases dialect <;> decide

end DbSchema
