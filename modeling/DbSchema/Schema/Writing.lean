import DbSchema.Json.Value
import DbSchema.Schema.Basic

/-!
# Writing schemas

Every record of a schema as JSON. Members come in the order in which their fields are declared;
optional ones are left out when they have no value, and so are empty lists of enumeration values.
-/

namespace DbSchema

open Json (optionalMember)

/-- A default value as JSON. -/
def DefaultValue.toJson : DefaultValue → Json
  | null => .null
  | boolean value => .boolean value
  | number value => .number value
  | text value => .text value

/-- A natural number of 32 bits as JSON. -/
def word32ToJson (value : UInt32) : Json :=
  .number (.integer (Int.ofNat value.toNat))

/-- A column as JSON. -/
def Column.toJson (column : Column) : Json :=
  .object <|
    [("id", .text column.id), ("name", .text column.name), ("type", .text column.type.tag)]
    ++ optionalMember "length" word32ToJson column.length
    ++ optionalMember "precision" word32ToJson column.precision
    ++ optionalMember "scale" word32ToJson column.scale
    ++ [("isPrimaryKey", .boolean column.isPrimaryKey),
      ("isNullable", .boolean column.isNullable), ("isUnique", .boolean column.isUnique)]
    ++ optionalMember "defaultValue" DefaultValue.toJson column.default
    ++ (if column.enumValues.isEmpty then []
      else [("enumValues", .list (column.enumValues.map .text))])
    ++ optionalMember "comment" .text column.comment

/-- An index as JSON. -/
def Index.toJson (index : Index) : Json :=
  .object <|
    [("id", .text index.id), ("name", .text index.name),
      ("columns", .list (index.columns.map .text)), ("isUnique", .boolean index.isUnique)]
    ++ optionalMember "method" (fun method => .text method.tag) index.method

/-- A foreign key as JSON. -/
def ForeignKey.toJson (key : ForeignKey) : Json :=
  .object <|
    [("id", .text key.id), ("name", .text key.name), ("column", .text key.column),
      ("referencedTable", .text key.referencedTable),
      ("referencedColumn", .text key.referencedColumn), ("onDelete", .text key.onDelete.keywords)]
    ++ optionalMember "onUpdate" (fun action => .text action.keywords) key.onUpdate

/-- A table as JSON. -/
def Table.toJson (table : Table) : Json :=
  .object <|
    [("id", .text table.id), ("name", .text table.name)]
    ++ optionalMember "schema" .text table.declaredNamespace
    ++ [("columns", .list (table.columns.map Column.toJson)),
      ("indexes", .list (table.indexes.map Index.toJson)),
      ("foreignKeys", .list (table.foreignKeys.map ForeignKey.toJson))]
    ++ optionalMember "comment" .text table.comment

/-- A junction table as JSON. -/
def JunctionTable.toJson (junction : JunctionTable) : Json :=
  .object
    [("name", .text junction.name), ("sourceColumn", .text junction.sourceColumn),
      ("targetColumn", .text junction.targetColumn)]

/-- A relationship as JSON. -/
def Relationship.toJson (relationship : Relationship) : Json :=
  .object <|
    [("id", .text relationship.id), ("name", .text relationship.name),
      ("sourceTable", .text relationship.sourceTable),
      ("sourceColumn", .text relationship.sourceColumn),
      ("targetTable", .text relationship.targetTable),
      ("targetColumn", .text relationship.targetColumn),
      ("cardinality", .text relationship.cardinality.tag),
      ("onDelete", .text relationship.onDelete.keywords)]
    ++ optionalMember "junctionTable" JunctionTable.toJson relationship.junction

/-- A parameter as JSON. -/
def Parameter.toJson (parameter : Parameter) : Json :=
  .object <|
    [("name", .text parameter.name), ("type", .text parameter.type.tag),
      ("direction", .text parameter.direction.keyword)]
    ++ optionalMember "defaultValue" DefaultValue.toJson parameter.default

/-- A routine as JSON. -/
def Routine.toJson (routine : Routine) : Json :=
  .object <|
    [("id", .text routine.id), ("name", .text routine.name),
      ("parameters", .list (routine.parameters.map Parameter.toJson))]
    ++ optionalMember "returnType" (fun type => .text type.tag) routine.returnType
    ++ [("body", .text routine.body)]
    ++ optionalMember "language" .text routine.language
    ++ optionalMember "comment" .text routine.comment

/-- A schema as JSON. -/
def Schema.toJson (schema : Schema) : Json :=
  .object
    [("id", .text schema.id), ("name", .text schema.name),
      ("description", .text schema.description), ("dialect", .text schema.dialect.tag),
      ("tables", .list (schema.tables.map Table.toJson)),
      ("relationships", .list (schema.relationships.map Relationship.toJson)),
      ("storedProcedures", .list (schema.routines.map Routine.toJson)),
      ("createdAt", .text schema.createdAt.text), ("updatedAt", .text schema.updatedAt.text)]

end DbSchema
