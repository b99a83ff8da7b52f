import DbSchema.Diagram.Label
import DbSchema.Schema.Basic

/-!
# Entity relationship diagrams

What a diagram of a schema shows: an entity for every table, a link for every relationship, and a
link for every pair of tables that only foreign keys connect.
-/

namespace DbSchema

/-- The mark of a column whose values identify rows. -/
inductive Diagram.Marker where
  | primaryKey
  | unique
  deriving DecidableEq, Repr

/-- A column as a diagram shows it. -/
structure Diagram.Attribute where
  type : String
  name : String
  marker : Option Diagram.Marker
  deriving DecidableEq, Repr

/-- A table as a diagram shows it. -/
structure Diagram.Entity where
  name : String
  attributes : List Diagram.Attribute
  deriving DecidableEq, Repr

/-- A line between two entities. -/
structure Diagram.Link where
  source : String
  cardinality : Cardinality
  target : String
  label : String
  deriving DecidableEq, Repr

/-- A diagram. -/
structure Diagram where
  entities : List Diagram.Entity
  links : List Diagram.Link
  deriving DecidableEq, Repr

namespace Diagram

/-- The word for a column type. -/
def typeWord : ColumnType → String
  | .integer => "int"
  | type => type.tag

/-- The mark of a column; being part of the primary key comes first. -/
def markerOf (column : Column) : Option Marker :=
  if column.isPrimaryKey then some .primaryKey
  else if column.isUnique then some .unique
  else none

/-- A column in a diagram. -/
def attributeOf (column : Column) : Attribute :=
  ⟨typeWord column.type, identifier column.name, markerOf column⟩

/-- A table in a diagram. -/
def entityOf (table : Table) : Entity :=
  ⟨identifier table.name, table.columns.map attributeOf⟩

/-- The label of a relationship: its name, or its two tables if nothing is left of the name. -/
def labelOf (relationship : Relationship) : String :=
  let named := label relationship.name
  if named == "" then label (relationship.sourceTable ++ "_to_" ++ relationship.targetTable)
  else named

/-- A relationship in a diagram. -/
def linkOf (relationship : Relationship) : Link :=
  ⟨identifier relationship.sourceTable, relationship.cardinality,
    identifier relationship.targetTable, labelOf relationship⟩

/-- Whether two pairs of tables are the same apart from their order. -/
def samePair (left right : String × String) : Bool :=
  left == right || left == (right.2, right.1)

/-- The tables of every foreign key, the referenced one first, in the order of the tables. -/
def foreignKeyPairs (schema : Schema) : List (String × String) :=
  schema.tables.flatMap fun table =>
    table.foreignKeys.map fun key => (key.referencedTable, table.name)

/-- The pairs that no earlier one and none of the known ones equals apart from the order. -/
def newPairs (known : List (String × String)) :
    List (String × String) → List (String × String)
  | [] => []
  | pair :: pairs =>
    if known.any (samePair pair) then newPairs known pairs
    else pair :: newPairs (pair :: known) pairs

/-- The pairs of tables that foreign keys connect and no relationship does, each once, the
referenced table of its first foreign key in front. -/
def implicitPairs (schema : Schema) : List (String × String) :=
  newPairs
    (schema.relationships.map fun relationship =>
      (relationship.sourceTable, relationship.targetTable))
    (foreignKeyPairs schema)

/-- The link for a pair of tables that only foreign keys connect. -/
def implicitLink (pair : String × String) : Link :=
  ⟨identifier pair.1, .oneToMany, identifier pair.2, label ("has_" ++ pair.2)⟩

/-- The diagram of a schema. -/
def ofSchema (schema : Schema) : Diagram where
  entities := schema.tables.map entityOf
  links := schema.relationships.map linkOf ++ (implicitPairs schema).map implicitLink

end Diagram

end DbSchema
