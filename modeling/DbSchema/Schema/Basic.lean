import DbSchema.Schema.Supply
import DbSchema.Schema.Vocabulary
import DbSchema.Number.Number
import DbSchema.Text.Blank

/-!
# Schemas

The records that a database schema consists of. Tables, columns and relationships have an identity
of their own beside their names, which is what edits address; foreign keys and relationships refer
to tables and columns by name.
-/

namespace DbSchema

/-- The default of a column or parameter. An explicit null is a default too. -/
inductive DefaultValue where
  | null
  | boolean (value : Bool)
  | number (value : Number)
  | text (value : String)
  deriving DecidableEq, Repr, Inhabited

/-- A column of a table. -/
structure Column where
  id : String
  name : String
  type : ColumnType
  length : Option UInt32
  precision : Option UInt32
  scale : Option UInt32
  isPrimaryKey : Bool
  isNullable : Bool
  isUnique : Bool
  default : Option DefaultValue
  enumValues : List String
  comment : Option String
  deriving DecidableEq, Repr, Inhabited

/-- An index over columns of its table. -/
structure Index where
  id : String
  name : String
  columns : List String
  isUnique : Bool
  method : Option IndexMethod
  deriving DecidableEq, Repr, Inhabited

/-- A foreign key of the table that owns it. -/
structure ForeignKey where
  id : String
  name : String
  column : String
  referencedTable : String
  referencedColumn : String
  onDelete : ReferentialAction
  onUpdate : Option ReferentialAction
  deriving DecidableEq, Repr, Inhabited

/-- A table. -/
structure Table where
  id : String
  name : String
  declaredNamespace : Option String
  columns : List Column
  indexes : List Index
  foreignKeys : List ForeignKey
  comment : Option String
  deriving DecidableEq, Repr, Inhabited

/-- The names of the table that stands for a many-to-many relationship, and of its key columns. -/
structure JunctionTable where
  name : String
  sourceColumn : String
  targetColumn : String
  deriving DecidableEq, Repr, Inhabited

/-- A relationship between two tables. -/
structure Relationship where
  id : String
  name : String
  sourceTable : String
  sourceColumn : String
  targetTable : String
  targetColumn : String
  cardinality : Cardinality
  onDelete : ReferentialAction
  junction : Option JunctionTable
  deriving DecidableEq, Repr, Inhabited

/-- A parameter of a routine. -/
structure Parameter where
  name : String
  type : ColumnType
  direction : ParameterDirection
  default : Option DefaultValue
  deriving DecidableEq, Repr, Inhabited

/-- A stored routine. Its body is in the language of the database and is never looked into. -/
structure Routine where
  id : String
  name : String
  parameters : List Parameter
  returnType : Option ReturnType
  body : String
  language : Option String
  comment : Option String
  deriving DecidableEq, Repr, Inhabited

/-- A database schema. -/
structure Schema where
  id : String
  name : String
  description : String
  dialect : Dialect
  tables : List Table
  relationships : List Relationship
  routines : List Routine
  createdAt : Timestamp
  updatedAt : Timestamp
  deriving DecidableEq, Repr, Inhabited

namespace Table

/-- The namespace of a table, if it is another than the one a server takes by itself: blanks around
it do not count, and neither an empty text nor `public` in any case of its letters is one. -/
def qualifier (table : Table) : Option String :=
  (table.declaredNamespace.map Text.trim).filter fun name =>
    name != "" && !Text.sameAsciiLetters name "public"

/-- The columns of the primary key, in declaration order. -/
def primaryKey (table : Table) : List Column :=
  table.columns.filter Column.isPrimaryKey

end Table

namespace JunctionTable

/-- The junction of two tables, named for both. The key columns of a table joined with itself are
told apart by their role. -/
def forTables (source target : String) : JunctionTable :=
  if source == target then
    ⟨source ++ "_" ++ target, "source_" ++ source ++ "_id", "target_" ++ target ++ "_id"⟩
  else ⟨source ++ "_" ++ target, source ++ "_id", target ++ "_id"⟩

end JunctionTable

namespace Schema

/-- The first table with a given name. -/
def findTable? (schema : Schema) (name : String) : Option Table :=
  schema.tables.find? fun table => table.name == name

end Schema

end DbSchema
