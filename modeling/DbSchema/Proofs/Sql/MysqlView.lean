import DbSchema.Schema.Construction
import DbSchema.Sql.Script
import Mathlib.Data.List.Basic

/-!
# What a MySQL script depends on

The MySQL view of a schema is the schema without what only PostgreSQL has words for (namespaces,
index methods, defaults of parameters, and the languages and return types of routines) and without
what no script mentions: identifiers, times, and the names and actions of relationships. A script
can be generated from the view just as well, which each section shows for itself:
`compile_mysqlView`. So schemas with the same view have the same script.
-/

namespace DbSchema

/-- The MySQL view of a column. -/
def Column.mysqlView (column : Column) : Column :=
  { column with id := "" }

/-- The MySQL view of an index. -/
def Index.mysqlView (index : Index) : Index :=
  { index with id := "", method := none }

/-- The MySQL view of a foreign key, which keeps its name and its actions. -/
def ForeignKey.mysqlView (key : ForeignKey) : ForeignKey :=
  { key with id := "" }

/-- The MySQL view of a table. -/
def Table.mysqlView (table : Table) : Table :=
  { table with
    id := ""
    declaredNamespace := none
    columns := table.columns.map Column.mysqlView
    indexes := table.indexes.map Index.mysqlView
    foreignKeys := table.foreignKeys.map ForeignKey.mysqlView }

/-- The MySQL view of a relationship. -/
def Relationship.mysqlView (relationship : Relationship) : Relationship :=
  { relationship with id := "", name := "", onDelete := .noAction }

/-- The MySQL view of a parameter. -/
def Parameter.mysqlView (parameter : Parameter) : Parameter :=
  { parameter with default := none }

/-- The MySQL view of a routine. -/
def Routine.mysqlView (routine : Routine) : Routine :=
  { routine with
    id := ""
    parameters := routine.parameters.map Parameter.mysqlView
    returnType := none
    language := none }

/-- The MySQL view of a schema. -/
def Schema.mysqlView (schema : Schema) : Schema where
  id := ""
  name := schema.name
  description := schema.description
  dialect := .mysql
  tables := schema.tables.map Table.mysqlView
  relationships := schema.relationships.map Relationship.mysqlView
  routines := schema.routines.map Routine.mysqlView
  createdAt := default
  updatedAt := default

namespace Sql

section Parts

variable (table : Table)

/-- The primary key is found by what the view keeps. -/
theorem primaryKey_mysqlView :
    table.mysqlView.primaryKey = table.primaryKey.map Column.mysqlView :=
  List.filter_map

/-- A table is created from its view. -/
theorem createTable_mysqlView :
    createTable .mysql table.mysqlView = createTable .mysql table := by
  have columns : (table.mysqlView.columns.map fun column =>
        TableElement.column (columnClause .mysql table.mysqlView.name column)) =
      table.columns.map fun column => .column (columnClause .mysql table.name column) :=
    List.map_map
  have key : primaryKeyElements table.mysqlView = primaryKeyElements table := by
    unfold primaryKeyElements
    rw [primaryKey_mysqlView, List.isEmpty_map, List.map_map]
    rfl
  have elements : tableElements .mysql table.mysqlView = tableElements .mysql table := by
    rw [tableElements, columns, key, tableElements]
  rw [createTable, tableStatement, elements]
  rfl

/-- Indexes are created from the view of their table. -/
theorem createIndex_mysqlView :
    table.mysqlView.indexes.map (createIndex .mysql table.mysqlView) =
      table.indexes.map (createIndex .mysql table) :=
  List.map_map

/-- Foreign keys are added from the view of their table, whatever the schema: the table that a key
refers to is looked up for its namespace only. -/
theorem addForeignKey_mysqlView (schema other : Schema) :
    table.mysqlView.foreignKeys.map (addForeignKey .mysql other table.mysqlView) =
      table.foreignKeys.map (addForeignKey .mysql schema table) :=
  List.map_map

/-- So it is with the junction table of a relationship. -/
theorem createJunction?_mysqlView (schema other : Schema) (relationship : Relationship) :
    createJunction? .mysql other relationship.mysqlView =
      createJunction? .mysql schema relationship := rfl

/-- A routine is created from its view. -/
theorem createRoutine_mysqlView (routine : Routine) :
    createRoutine .mysql routine.mysqlView = createRoutine .mysql routine := by
  have parameters : routine.mysqlView.parameters.map (procedureParameter .mysql) =
      routine.parameters.map (procedureParameter .mysql) := List.map_map
  rw [createRoutine, createRoutine, parameters]
  rfl

end Parts

section Scripts

variable (schema : Schema)

/-- Every section of a schema is that of its view. -/
theorem sectionsOf_mysqlView : sectionsOf .mysql schema.mysqlView = sectionsOf .mysql schema := by
  have tables : createTables .mysql schema.mysqlView = createTables .mysql schema := by
    unfold createTables Schema.mysqlView
    rw [List.map_map]
    exact List.map_congr_left fun table _ => createTable_mysqlView table
  have indexes : createIndexes .mysql schema.mysqlView = createIndexes .mysql schema := by
    unfold createIndexes Schema.mysqlView
    rw [List.flatMap_map]
    exact List.flatMap_congr fun table _ => createIndex_mysqlView table
  have foreignKeys : addForeignKeys .mysql schema.mysqlView = addForeignKeys .mysql schema := by
    unfold addForeignKeys Schema.mysqlView
    rw [List.flatMap_map]
    exact List.flatMap_congr fun table _ => addForeignKey_mysqlView table _ _
  have junctions : createJunctions .mysql schema.mysqlView = createJunctions .mysql schema := by
    unfold createJunctions Schema.mysqlView
    rw [List.filterMap_map]
    exact List.filterMap_congr fun relationship _ => createJunction?_mysqlView _ _ relationship
  have routines : schema.mysqlView.routines.map (createRoutine .mysql) =
      schema.routines.map (createRoutine .mysql) := by
    unfold Schema.mysqlView
    rw [List.map_map]
    exact List.map_congr_left fun routine _ => createRoutine_mysqlView routine
  unfold sectionsOf
  rw [tables, indexes, foreignKeys, junctions, routines]
  rfl

/-- A MySQL script is generated from the view of the schema. -/
theorem compile_mysqlView (options : Options) (time : Timestamp)
    (mysql : options.dialectFor schema = .mysql) :
    compile options time schema = compile ⟨options.timestamp, none⟩ time schema.mysqlView := by
  have dialect : Options.dialectFor ⟨options.timestamp, none⟩ schema.mysqlView = .mysql := rfl
  rw [compile, compile, scriptOf, scriptOf, mysql, dialect, sectionsOf_mysqlView]
  rfl

end Scripts

/-- A MySQL script shows nothing of a schema but its MySQL view: schemas with the same view have the
same script, whatever dialects they are written for, if the options ask for MySQL or both are for
it. -/
theorem mysql_script_shows_view_only (options : Options) (time : Timestamp) {left right : Schema}
    (same : left.mysqlView = right.mysqlView) (leftMysql : options.dialectFor left = .mysql)
    (rightMysql : options.dialectFor right = .mysql) :
    compile options time left = compile options time right :=
  calc compile options time left
    _ = compile ⟨options.timestamp, none⟩ time left.mysqlView :=
      compile_mysqlView left options time leftMysql
    _ = compile ⟨options.timestamp, none⟩ time right.mysqlView := by rw [same]
    _ = compile options time right := (compile_mysqlView right options time rightMysql).symm

/-- A schema in which the given values stand wherever a MySQL script leaves one out. -/
def labelledSchema (id word : String) (dialect : Dialect) (method : IndexMethod)
    (action : ReferentialAction) (returns : ReturnType) (time : Timestamp) : Schema where
  id := id
  name := "s"
  description := "Shared"
  dialect := dialect
  tables := [
    { Table.empty id "users" with
      declaredNamespace := some word
      columns := [(Column.ofType id "id" .integer).primaryKey, .ofType id "friend" .integer]
      indexes := [(Index.onColumns id "by_friend" ["friend"]).byMethod method]
      foreignKeys := [.between id "friends" "friend" "users" "id"] }]
  relationships := [
    { Relationship.joinedBy (.between id ("users", "id") ("users", "id") .manyToMany)
        (.forTables "users" "users") with
      name := word
      onDelete := action }]
  routines := [
    ⟨id, "touch", [⟨"who", .integer, .input, some (.text word)⟩], some returns, "SELECT 1;",
      some word, none⟩]
  createdAt := time
  updatedAt := time

/-- Schemas that differ in all that a MySQL script leaves out, and in their PostgreSQL scripts, have
the same MySQL script. -/
theorem mysql_script_shows_view_only_of_labelledSchema :
    let left := labelledSchema "1" "sql" .mysql .hash .cascade .void default
    let right :=
      labelledSchema "2" "auth" .postgresql .gin .restrict .table ⟨2024, 1, 28, 0, 0, 0, 0⟩
    let options : Options := ⟨true, some .mysql⟩
    left.mysqlView = right.mysqlView ∧ options.dialectFor left = .mysql
      ∧ options.dialectFor right = .mysql
      ∧ sectionsOf .postgresql left ≠ sectionsOf .postgresql right
      ∧ compile options default left = compile options default right := by
  intro left right options
  have same : left.mysqlView = right.mysqlView := by decide
  refine ⟨same, rfl, rfl, ?_, mysql_script_shows_view_only options default same rfl rfl⟩
  decide

end Sql

end DbSchema
