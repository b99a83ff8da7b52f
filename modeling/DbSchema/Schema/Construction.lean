import DbSchema.Schema.Basic

/-!
# Building schemas

The simplest record of every kind, and the steps that make more of one. Every step changes what it
names and keeps the rest; lists grow at their end.
-/

namespace DbSchema

namespace Schema

/-- A schema without contents, created at the given time. -/
def empty (id name : String) (dialect : Dialect) (now : Timestamp) : Schema :=
  ⟨id, name, "", dialect, [], [], [], now, now⟩

/-- Replaces the description. -/
def described (schema : Schema) (description : String) : Schema :=
  { schema with description }

/-- Adds a table. -/
def addTable (schema : Schema) (table : Table) : Schema :=
  { schema with tables := schema.tables ++ [table] }

/-- Adds a relationship. -/
def addRelationship (schema : Schema) (relationship : Relationship) : Schema :=
  { schema with relationships := schema.relationships ++ [relationship] }

/-- Adds a routine. -/
def addRoutine (schema : Schema) (routine : Routine) : Schema :=
  { schema with routines := schema.routines ++ [routine] }

end Schema

namespace Table

/-- A table without columns. -/
def empty (id name : String) : Table :=
  ⟨id, name, none, [], [], [], none⟩

/-- Puts the table into a namespace. -/
def inNamespace (table : Table) (name : String) : Table :=
  { table with declaredNamespace := some name }

/-- Adds a column. -/
def addColumn (table : Table) (column : Column) : Table :=
  { table with columns := table.columns ++ [column] }

/-- Adds an index. -/
def addIndex (table : Table) (index : Index) : Table :=
  { table with indexes := table.indexes ++ [index] }

/-- Adds a foreign key. -/
def addForeignKey (table : Table) (key : ForeignKey) : Table :=
  { table with foreignKeys := table.foreignKeys ++ [key] }

/-- Replaces the comment. -/
def commented (table : Table) (comment : String) : Table :=
  { table with comment := some comment }

end Table

namespace Column

/-- A column that may be null and has no constraints. -/
def ofType (id name : String) (type : ColumnType) : Column where
  id := id
  name := name
  type := type
  length := none
  precision := none
  scale := none
  isPrimaryKey := false
  isNullable := true
  isUnique := false
  default := none
  enumValues := []
  comment := none

/-- Makes the column part of the primary key, so that it is never null. -/
def primaryKey (column : Column) : Column :=
  { column with isPrimaryKey := true, isNullable := false }

/-- Forbids nulls. -/
def notNull (column : Column) : Column :=
  { column with isNullable := false }

/-- Forbids equal values. -/
def unique (column : Column) : Column :=
  { column with isUnique := true }

/-- Sets the length. -/
def ofLength (column : Column) (length : UInt32) : Column :=
  { column with length := some length }

/-- Sets precision and scale. -/
def ofPrecision (column : Column) (precision scale : UInt32) : Column :=
  { column with precision := some precision, scale := some scale }

/-- Sets the default. -/
def withDefault (column : Column) (value : DefaultValue) : Column :=
  { column with default := some value }

/-- Sets the values of an enumeration. -/
def withEnumValues (column : Column) (values : List String) : Column :=
  { column with enumValues := values }

/-- Replaces the comment. -/
def commented (column : Column) (comment : String) : Column :=
  { column with comment := some comment }

end Column

namespace Index

/-- An index over columns. -/
def onColumns (id name : String) (columns : List String) : Index :=
  ⟨id, name, columns, false, none⟩

/-- Forbids equal entries. -/
def unique (index : Index) : Index :=
  { index with isUnique := true }

/-- Sets the method. -/
def byMethod (index : Index) (method : IndexMethod) : Index :=
  { index with method := some method }

end Index

namespace ForeignKey

/-- A foreign key from a column to a column of another table. -/
def between (id name column referencedTable referencedColumn : String) : ForeignKey :=
  ⟨id, name, column, referencedTable, referencedColumn, .noAction, none⟩

/-- Sets what happens on deletion. -/
def onDeleting (key : ForeignKey) (action : ReferentialAction) : ForeignKey :=
  { key with onDelete := action }

/-- Sets what happens on update. -/
def onUpdating (key : ForeignKey) (action : ReferentialAction) : ForeignKey :=
  { key with onUpdate := some action }

end ForeignKey

namespace Relationship

/-- A relationship without name from a source to a target, each a table and a column of it. -/
def between (id : String) (source target : String × String) (cardinality : Cardinality) :
    Relationship :=
  ⟨id, "", source.1, source.2, target.1, target.2, cardinality, .noAction, none⟩

/-- Sets the name. -/
def named (relationship : Relationship) (name : String) : Relationship :=
  { relationship with name }

/-- Sets the junction table. -/
def joinedBy (relationship : Relationship) (junction : JunctionTable) : Relationship :=
  { relationship with junction := some junction }

end Relationship

namespace Routine

/-- A routine without parameters. -/
def ofBody (id name body : String) : Routine :=
  ⟨id, name, [], none, body, none, none⟩

/-- Adds a parameter. -/
def addParameter (routine : Routine) (parameter : Parameter) : Routine :=
  { routine with parameters := routine.parameters ++ [parameter] }

/-- Sets what the routine returns. -/
def returning (routine : Routine) (type : ReturnType) : Routine :=
  { routine with returnType := some type }

/-- Sets the language of the body. -/
def inLanguage (routine : Routine) (language : String) : Routine :=
  { routine with language := some language }

/-- Replaces the comment. -/
def commented (routine : Routine) (comment : String) : Routine :=
  { routine with comment := some comment }

end Routine

namespace Parameter

/-- A parameter that passes a value in. -/
def ofType (name : String) (type : ColumnType) : Parameter :=
  ⟨name, type, .input, none⟩

/-- Sets the direction. -/
def directed (parameter : Parameter) (direction : ParameterDirection) : Parameter :=
  { parameter with direction }

/-- Sets the default. -/
def withDefault (parameter : Parameter) (value : DefaultValue) : Parameter :=
  { parameter with default := some value }

end Parameter

end DbSchema
