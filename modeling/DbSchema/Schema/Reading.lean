import DbSchema.Json.Record
import DbSchema.Schema.Construction
import DbSchema.Time.Reading

/-!
# Reading schemas

The shape of every record of a schema in JSON: the names of its fields, how they are read and what
holds when they are absent.
-/

namespace DbSchema

open Json (Field Node Reader Shape)

/-- Reads a default value; a null is one. A list or an object is read to its end before it is
refused. -/
def DefaultValue.read : Node → Reader DefaultValue
  | .leaf .null => pure .null
  | .leaf (.boolean value) => pure (.boolean value)
  | .leaf (.number value) => .number <$> Reader.spelled value
  | .leaf (.text quoted) => .text <$> Reader.spelled quoted.text
  | node => do
    Reader.anything node
    throw (.noVariant "DefaultValue")

/-- Reads a dialect by one of its tags. -/
def Dialect.read : Node → Reader Dialect :=
  Reader.choice tags

/-- Reads a column type by its tag. -/
def ColumnType.read : Node → Reader ColumnType :=
  Reader.choice (all.map fun type => (type.tag, type))

/-- Reads a cardinality by its tag. -/
def Cardinality.read : Node → Reader Cardinality :=
  Reader.choice (all.map fun cardinality => (cardinality.tag, cardinality))

/-- Reads an action by its key words. -/
def ReferentialAction.read : Node → Reader ReferentialAction :=
  Reader.choice (all.map fun action => (action.keywords, action))

/-- Reads an index method by its tag. -/
def IndexMethod.read : Node → Reader IndexMethod :=
  Reader.choice (all.map fun method => (method.tag, method))

/-- Reads a direction by its key word. -/
def ParameterDirection.read : Node → Reader ParameterDirection :=
  Reader.choice (all.map fun direction => (direction.keyword, direction))

/-- Reads an export format by its tag. -/
def ExportFormat.read : Node → Reader ExportFormat :=
  Reader.choice (all.map fun format => (format.tag, format))

/-- Reads a return type, which is spelled in any letter case. -/
def ReturnType.read (node : Node) : Reader ReturnType := do
  match ofText? (← Reader.text node) with
  | .ok type => pure type
  | .error error => throw (.refused error.message)

/-- Reads a point of time in the lenient form. -/
def Timestamp.read (node : Node) : Reader Timestamp := do
  match ofLenientText? (← Reader.textAs "an RFC 3339 formatted date and time string" node) with
  | .ok time => pure time
  | .error error => throw (.refused error.message)

/-- The current time; the supply is kept. -/
def Supply.currentTime (supply : Supply) : Timestamp × Supply :=
  (supply.now, supply)

/-- The shape of a column. -/
def Column.shape : Shape Column where
  title := "struct ColumnDefinition"
  blank := .ofType "" "" .integer
  fields := [
    .filled "id" Reader.text (fun id column => { column with id }) Supply.freshId,
    .required "name" Reader.text fun name column => { column with name },
    .required "type" ColumnType.read fun type column => { column with type },
    .defaulted "length" (Reader.optional Reader.word32) fun length column =>
      { column with length },
    .defaulted "precision" (Reader.optional Reader.word32) fun precision column =>
      { column with precision },
    .defaulted "scale" (Reader.optional Reader.word32) fun scale column => { column with scale },
    .defaulted "isPrimaryKey" Reader.boolean fun isPrimaryKey column =>
      { column with isPrimaryKey },
    .defaulted "isNullable" Reader.boolean fun isNullable column => { column with isNullable },
    .defaulted "isUnique" Reader.boolean fun isUnique column => { column with isUnique },
    .defaulted "defaultValue" DefaultValue.read fun value column =>
      { column with default := some value },
    .defaulted "enumValues" (Reader.listOf Reader.text) fun enumValues column =>
      { column with enumValues },
    .defaulted "comment" (Reader.optional Reader.text) fun comment column =>
      { column with comment }]

/-- The shape of an index. -/
def Index.shape : Shape Index where
  title := "struct IndexDefinition"
  blank := .onColumns "" "" []
  fields := [
    .filled "id" Reader.text (fun id index => { index with id }) Supply.freshId,
    .required "name" Reader.text fun name index => { index with name },
    .required "columns" (Reader.listOf Reader.text) fun columns index => { index with columns },
    .defaulted "isUnique" Reader.boolean fun isUnique index => { index with isUnique },
    .defaulted "method" (Reader.optional IndexMethod.read) fun method index =>
      { index with method }]

/-- The shape of a foreign key. -/
def ForeignKey.shape : Shape ForeignKey where
  title := "struct ForeignKeyDefinition"
  blank := .between "" "" "" "" ""
  fields := [
    .filled "id" Reader.text (fun id key => { key with id }) Supply.freshId,
    .required "name" Reader.text fun name key => { key with name },
    .required "column" Reader.text fun column key => { key with column },
    .required "referencedTable" Reader.text fun referencedTable key =>
      { key with referencedTable },
    .required "referencedColumn" Reader.text fun referencedColumn key =>
      { key with referencedColumn },
    .defaulted "onDelete" ReferentialAction.read fun onDelete key => { key with onDelete },
    .defaulted "onUpdate" (Reader.optional ReferentialAction.read) fun onUpdate key =>
      { key with onUpdate }]

/-- The shape of a table. -/
def Table.shape : Shape Table where
  title := "struct TableDefinition"
  blank := .empty "" ""
  fields := [
    .filled "id" Reader.text (fun id table => { table with id }) Supply.freshId,
    .required "name" Reader.text fun name table => { table with name },
    .defaulted "schema" (Reader.optional Reader.text) fun declaredNamespace table =>
      { table with declaredNamespace },
    .defaulted "columns" (Reader.listOf Column.shape.read) fun columns table =>
      { table with columns },
    .defaulted "indexes" (Reader.listOf Index.shape.read) fun indexes table =>
      { table with indexes },
    .defaulted "foreignKeys" (Reader.listOf ForeignKey.shape.read) fun foreignKeys table =>
      { table with foreignKeys },
    .defaulted "comment" (Reader.optional Reader.text) fun comment table =>
      { table with comment }]

/-- The shape of a junction table. -/
def JunctionTable.shape : Shape JunctionTable where
  title := "struct JunctionTable"
  blank := ⟨"", "", ""⟩
  fields := [
    .required "name" Reader.text fun name junction => { junction with name },
    .required "sourceColumn" Reader.text fun sourceColumn junction =>
      { junction with sourceColumn },
    .required "targetColumn" Reader.text fun targetColumn junction =>
      { junction with targetColumn }]

/-- The shape of a relationship. -/
def Relationship.shape : Shape Relationship where
  title := "struct RelationshipDefinition"
  blank := .between "" ("", "") ("", "") .oneToOne
  fields := [
    .filled "id" Reader.text (fun id relationship => { relationship with id }) Supply.freshId,
    .defaulted "name" Reader.text fun name relationship => { relationship with name },
    .required "sourceTable" Reader.text fun sourceTable relationship =>
      { relationship with sourceTable },
    .required "sourceColumn" Reader.text fun sourceColumn relationship =>
      { relationship with sourceColumn },
    .required "targetTable" Reader.text fun targetTable relationship =>
      { relationship with targetTable },
    .required "targetColumn" Reader.text fun targetColumn relationship =>
      { relationship with targetColumn },
    .required "cardinality" Cardinality.read fun cardinality relationship =>
      { relationship with cardinality },
    .defaulted "onDelete" ReferentialAction.read fun onDelete relationship =>
      { relationship with onDelete },
    .defaulted "junctionTable" (Reader.optional JunctionTable.shape.read)
      fun junction relationship => { relationship with junction }]

/-- The shape of a parameter. -/
def Parameter.shape : Shape Parameter where
  title := "struct ProcedureParameter"
  blank := .ofType "" .integer
  fields := [
    .required "name" Reader.text fun name parameter => { parameter with name },
    .required "type" ColumnType.read fun type parameter => { parameter with type },
    .defaulted "direction" ParameterDirection.read fun direction parameter =>
      { parameter with direction },
    .defaulted "defaultValue" DefaultValue.read fun value parameter =>
      { parameter with default := some value }]

/-- The shape of a routine. -/
def Routine.shape : Shape Routine where
  title := "struct StoredProcedureDefinition"
  blank := .ofBody "" "" ""
  fields := [
    .filled "id" Reader.text (fun id routine => { routine with id }) Supply.freshId,
    .required "name" Reader.text fun name routine => { routine with name },
    .defaulted "parameters" (Reader.listOf Parameter.shape.read) fun parameters routine =>
      { routine with parameters },
    .defaulted "returnType" (Reader.optional ReturnType.read) fun returnType routine =>
      { routine with returnType },
    .defaulted "body" Reader.text fun body routine => { routine with body },
    .defaulted "language" (Reader.optional Reader.text) fun language routine =>
      { routine with language },
    .defaulted "comment" (Reader.optional Reader.text) fun comment routine =>
      { routine with comment }]

/-- The shape of a schema. -/
def Schema.shape : Shape Schema where
  title := "struct SchemaDefinition"
  blank := .empty "" "" .postgresql default
  fields := [
    .filled "id" Reader.text (fun id schema => { schema with id }) Supply.freshId,
    .required "name" Reader.text fun name schema => { schema with name },
    .defaulted "description" Reader.text fun description schema => { schema with description },
    .defaulted "dialect" Dialect.read fun dialect schema => { schema with dialect },
    .defaulted "tables" (Reader.listOf Table.shape.read) fun tables schema =>
      { schema with tables },
    .defaulted "relationships" (Reader.listOf Relationship.shape.read)
      fun relationships schema => { schema with relationships },
    .defaulted "storedProcedures" (Reader.listOf Routine.shape.read) fun routines schema =>
      { schema with routines },
    .filled "createdAt" Timestamp.read (fun createdAt schema => { schema with createdAt })
      Supply.currentTime,
    .filled "updatedAt" Timestamp.read (fun updatedAt schema => { schema with updatedAt })
      Supply.currentTime]

end DbSchema
