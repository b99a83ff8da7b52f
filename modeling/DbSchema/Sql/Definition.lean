import DbSchema.Sql.Statement

/-!
# The statements of a schema

Which statements define the namespaces, enumerations, tables, indexes, foreign keys and junction
tables of a schema. Tables are mentioned by name, and wherever a mention needs the namespace of a
table it is looked up in the schema.
-/

namespace DbSchema.Sql

/-- The name of a table in a dialect, qualified where the dialect has namespaces. -/
def tableName (dialect : Dialect) (qualifier : Option String) (name : String) : TableName :=
  ⟨if dialect.hasNamespaces then qualifier else none, name⟩

/-- The name of a table of the schema. -/
def nameOf (dialect : Dialect) (table : Table) : TableName :=
  tableName dialect table.qualifier table.name

/-- The name of a table that is referred to. A name that no table has is not qualified. -/
def referencedName (dialect : Dialect) (schema : Schema) (name : String) : TableName :=
  tableName dialect ((schema.findTable? name).bind Table.qualifier) name

/-- The list without the elements that equal an earlier one. -/
def distinct {α : Type} [BEq α] (list : List α) : List α :=
  list.foldl (fun seen element => if seen.contains element then seen else seen ++ [element]) []

/-- The statements that create the namespaces of the tables, each once, in the order of their first
table. -/
def createNamespaces (dialect : Dialect) (schema : Schema) : List Statement :=
  if dialect.hasNamespaces then
    (distinct (schema.tables.filterMap Table.qualifier)).map .createNamespace
  else []

/-- The name of the enumeration type of a column. -/
def enumTypeName (table column : String) : String :=
  table ++ "_" ++ column ++ "_enum"

/-- Whether the type of a column is an enumeration with values. -/
def isEnumColumn (column : Column) : Bool :=
  column.type == .enum && !column.enumValues.isEmpty

/-- The statements that declare the enumeration types of the columns. -/
def createEnums (dialect : Dialect) (schema : Schema) : List Statement :=
  if dialect.declaresEnums then
    schema.tables.flatMap fun table =>
      (table.columns.filter isEnumColumn).map fun column =>
        .createEnum (enumTypeName table.name column.name) column.enumValues
  else []

/-- The type of a column in a table. -/
def columnType (dialect : Dialect) (table : String) (column : Column) : TypeClause :=
  if column.type = .enum then
    if column.enumValues.isEmpty then .words dialect.emptyEnumType
    else if dialect.declaresEnums then .declared (enumTypeName table column.name)
    else .values column.enumValues
  else .words (dialect.scalarType column.type column.length column.precision column.scale)

/-- The definition of a column. Being part of the primary key implies the other two constraints. -/
def columnClause (dialect : Dialect) (table : String) (column : Column) : ColumnClause where
  name := column.name
  type := columnType dialect table column
  notNull := !column.isPrimaryKey && !column.isNullable
  unique := !column.isPrimaryKey && column.isUnique
  default := column.default.map (defaultPiece dialect)
  comment := if dialect.commentsInline then column.comment else none

/-- The primary key of a table, if it has one. -/
def primaryKeyElements (table : Table) : List TableElement :=
  if table.primaryKey.isEmpty then [] else [.primaryKey (table.primaryKey.map Column.name)]

/-- What follows the definitions of a table. -/
def tableOptions (dialect : Dialect) (comment : Option String) : List Piece :=
  match dialect with
  | .postgresql => []
  | .mysql =>
    .plain " ENGINE=InnoDB DEFAULT CHARSET=utf8mb4"
      :: optionalPieces (fun comment => [.plain " COMMENT=", .literal comment]) comment

/-- The statements that comment on a table and its columns. -/
def commentStatements (dialect : Dialect) (table : Table) : List Statement :=
  if dialect.commentsInline then []
  else
    (table.comment.toList.map fun comment => .commentOnTable (nameOf dialect table) comment)
      ++ table.columns.filterMap fun column =>
        column.comment.map fun comment =>
          .commentOnColumn (nameOf dialect table) column.name comment

/-- The elements of a table: columns, then the primary key. -/
def tableElements (dialect : Dialect) (table : Table) : List TableElement :=
  (table.columns.map fun column => .column (columnClause dialect table.name column))
    ++ primaryKeyElements table

/-- The statement that creates a table of the schema. -/
def tableStatement (dialect : Dialect) (table : Table) : Statement :=
  .createTable (nameOf dialect table) (tableElements dialect table)
    (tableOptions dialect table.comment)

/-- The statements that create a table, with the comments apart where the dialect asks for it. -/
def createTable (dialect : Dialect) (table : Table) : List Statement :=
  tableStatement dialect table :: commentStatements dialect table

/-- The statements that create the tables, one group for each. -/
def createTables (dialect : Dialect) (schema : Schema) : List (List Statement) :=
  schema.tables.map (createTable dialect)

/-- The statement that creates an index. The method that is taken anyway is not spelled out. -/
def createIndex (dialect : Dialect) (table : Table) (index : Index) : Statement :=
  .createIndex index.isUnique index.name (nameOf dialect table)
    (if dialect.hasIndexMethods then index.method.filter (· != .btree) else none) index.columns

/-- The statements that create the indexes. -/
def createIndexes (dialect : Dialect) (schema : Schema) : List Statement :=
  schema.tables.flatMap fun table => table.indexes.map (createIndex dialect table)

/-- The statement that adds a foreign key. -/
def addForeignKey (dialect : Dialect) (schema : Schema) (table : Table) (key : ForeignKey) :
    Statement :=
  .addReference (nameOf dialect table)
    ⟨key.name, key.column, referencedName dialect schema key.referencedTable, key.referencedColumn,
      key.onDelete, key.onUpdate⟩

/-- The statements that add the foreign keys. All tables exist before them, so the order of the
tables does not matter. -/
def addForeignKeys (dialect : Dialect) (schema : Schema) : List Statement :=
  schema.tables.flatMap fun table => table.foreignKeys.map (addForeignKey dialect schema table)

/-- A column of a junction table. -/
def junctionColumn (dialect : Dialect) (name : String) (type : ColumnType)
    (value : Option Piece) : TableElement :=
  .column ⟨name, .words (dialect.typeKeyword type), false, false, value, none⟩

/-- The constraint by which a column of a junction table refers to one of the joined tables. -/
def junctionReference (dialect : Dialect) (schema : Schema) (junction column table
    referencedColumn : String) : TableElement :=
  .reference
    ⟨"fk_" ++ junction ++ "_" ++ column, column, referencedName dialect schema table,
      referencedColumn, .cascade, none⟩

/-- The statement that creates the junction table of a relationship with names for one. -/
def junctionStatement (dialect : Dialect) (schema : Schema) (relationship : Relationship)
    (junction : JunctionTable) : Statement :=
  .createTable ⟨none, junction.name⟩
    [junctionColumn dialect junction.sourceColumn .integer none,
      junctionColumn dialect junction.targetColumn .integer none,
      junctionColumn dialect "created_at" .timestamp (some (.plain "CURRENT_TIMESTAMP")),
      .primaryKey [junction.sourceColumn, junction.targetColumn],
      junctionReference dialect schema junction.name junction.sourceColumn
        relationship.sourceTable relationship.sourceColumn,
      junctionReference dialect schema junction.name junction.targetColumn
        relationship.targetTable relationship.targetColumn]
    (tableOptions dialect none)

/-- The statement that creates the junction table of a relationship, which only a many-to-many
relationship with the names for one has. -/
def createJunction? (dialect : Dialect) (schema : Schema) (relationship : Relationship) :
    Option Statement :=
  match relationship.cardinality, relationship.junction with
  | .manyToMany, some junction => some (junctionStatement dialect schema relationship junction)
  | _, _ => none

/-- The statements that create the junction tables. -/
def createJunctions (dialect : Dialect) (schema : Schema) : List Statement :=
  schema.relationships.filterMap (createJunction? dialect schema)

end DbSchema.Sql
