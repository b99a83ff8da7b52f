import DbSchema.Schema.Construction

/-!
# Edits of schemas

The single changes that can be made to a schema. Tables, columns and relationships are addressed by
their identifiers; names of tables, and of columns within a table, must stay apart. An edit either
gives the changed schema or says why it was refused.
-/

namespace DbSchema

/-- The kinds of things that edits address. -/
inductive EntityKind where
  | table
  | column
  | relationship
  deriving DecidableEq, Repr

/-- Why an edit was refused. -/
inductive EditError where
  | notFound (kind : EntityKind) (id : String)
  | tableExists (name : String)
  | columnExists (name table : String)
  deriving DecidableEq, Repr

/-- The word for a kind. -/
def EntityKind.word : EntityKind → String
  | table => "Table"
  | column => "Column"
  | relationship => "Relationship"

/-- The text of the error. -/
def EditError.message : EditError → String
  | notFound kind id => kind.word ++ " not found: '" ++ id ++ "'"
  | tableExists name => "Invalid edit: table '" ++ name ++ "' already exists"
  | columnExists name table =>
    "Invalid edit: column '" ++ name ++ "' already exists on '" ++ table ++ "'"

/-- A change to a schema. -/
inductive Edit where
  | rename (name : String)
  | describe (text : String)
  | setDialect (dialect : Dialect)
  | addTable (table : Table)
  | updateTable (table : Table)
  | removeTable (tableId : String)
  | addColumn (tableId : String) (column : Column)
  | updateColumn (tableId : String) (column : Column)
  | removeColumn (tableId columnId : String)
  | addRelationship (relationship : Relationship)
  | updateRelationship (relationship : Relationship)
  | removeRelationship (relationshipId : String)
  | setCardinality (relationshipId : String) (cardinality : Cardinality)
  deriving DecidableEq, Repr

/-- The list with its first element that satisfies the test changed, if there is one. -/
def modifyFirst? {α : Type} (test : α → Bool) (change : α → α) : List α → Option (List α)
  | [] => none
  | element :: rest =>
    if test element then some (change element :: rest)
    else (modifyFirst? test change rest).map (element :: ·)

/-- A relationship has names for a junction table exactly when it is many-to-many: missing ones are
made up from its tables, and needless ones dropped. -/
def Relationship.normalized (relationship : Relationship) : Relationship :=
  match relationship.cardinality with
  | .manyToMany =>
    { relationship with
      junction := some (relationship.junction.getD
        (.forTables relationship.sourceTable relationship.targetTable)) }
  | _ => { relationship with junction := none }

namespace Schema

/-- The name after renaming one. -/
def renamed (old new name : String) : String :=
  if name == old then new else name

/-- The schema with every mention of a table name changed. -/
def renameMentions (schema : Schema) (old new : String) : Schema :=
  { schema with
    relationships := schema.relationships.map fun relationship =>
      { relationship with
        sourceTable := renamed old new relationship.sourceTable
        targetTable := renamed old new relationship.targetTable }
    tables := schema.tables.map fun table =>
      { table with
        foreignKeys := table.foreignKeys.map fun key =>
          { key with referencedTable := renamed old new key.referencedTable } } }

/-- Whether another table than the one with the given identifier has the name. -/
def hasOtherTable (schema : Schema) (name : String) (except : Option String) : Bool :=
  schema.tables.any fun table => table.name == name && some table.id != except

/-- Changes the table with an identifier. -/
def modifyTable (schema : Schema) (tableId : String)
    (change : Table → Except EditError Table) : Except EditError Schema :=
  match schema.tables.find? fun table => table.id == tableId with
  | none => .error (.notFound .table tableId)
  | some table => do
    let changed ← change table
    let tables := modifyFirst? (fun table => table.id == tableId) (fun _ => changed) schema.tables
    return { schema with tables := tables.getD schema.tables }

/-- Changes the relationship with an identifier. -/
def modifyRelationship (schema : Schema) (relationshipId : String)
    (change : Relationship → Relationship) : Except EditError Schema :=
  match modifyFirst? (fun known => known.id == relationshipId) change schema.relationships with
  | none => .error (.notFound .relationship relationshipId)
  | some relationships => .ok { schema with relationships }

/-- The schema without a table, and without the relationships and foreign keys that mention it. -/
def withoutTable (schema : Schema) (tableId name : String) : Schema :=
  { schema with
    tables := (schema.tables.filter fun table => table.id != tableId).map fun table =>
      { table with
        foreignKeys := table.foreignKeys.filter fun key => key.referencedTable != name }
    relationships := schema.relationships.filter fun relationship =>
      relationship.sourceTable != name && relationship.targetTable != name }

end Schema

/-- Whether another column than the given one has its name. -/
def Table.hasOtherColumn (table : Table) (column : Column) : Bool :=
  table.columns.any fun known => known.name == column.name && known.id != column.id

/-- Replaces the column with the identifier of the given one. -/
def Table.updateColumn (table : Table) (column : Column) : Except EditError Table :=
  if table.hasOtherColumn column then .error (.columnExists column.name table.name)
  else
    match modifyFirst? (fun known => known.id == column.id) (fun _ => column) table.columns with
    | none => .error (.notFound .column column.id)
    | some columns => .ok { table with columns }

/-- Adds a column whose name no column has. -/
def Table.addNewColumn (table : Table) (column : Column) : Except EditError Table :=
  if table.columns.any fun known => known.name == column.name then
    .error (.columnExists column.name table.name)
  else .ok (table.addColumn column)

/-- Removes the columns with an identifier. -/
def Table.removeColumn (table : Table) (columnId : String) : Except EditError Table :=
  if table.columns.any fun known => known.id == columnId then
    .ok { table with columns := table.columns.filter fun known => known.id != columnId }
  else .error (.notFound .column columnId)

/-- Replaces the table with the identifier of the given one. When its name changes, everything that
mentions the old name mentions the new one instead. -/
def Schema.updateTable (schema : Schema) (table : Table) : Except EditError Schema :=
  if schema.hasOtherTable table.name (some table.id) then .error (.tableExists table.name)
  else
    match schema.tables.find? fun known => known.id == table.id with
    | none => .error (.notFound .table table.id)
    | some old => do
      let replaced ← schema.modifyTable table.id fun _ => .ok table
      return if old.name == table.name then replaced
        else replaced.renameMentions old.name table.name

/-- Makes an edit. -/
def Edit.apply (schema : Schema) : Edit → Except EditError Schema
  | rename name => .ok { schema with name }
  | describe text => .ok (schema.described text)
  | setDialect dialect => .ok { schema with dialect }
  | addTable table =>
    if schema.hasOtherTable table.name none then .error (.tableExists table.name)
    else .ok (schema.addTable table)
  | updateTable table => schema.updateTable table
  | removeTable tableId =>
    match schema.tables.find? fun table => table.id == tableId with
    | none => .error (.notFound .table tableId)
    | some table => .ok (schema.withoutTable tableId table.name)
  | addColumn tableId column => schema.modifyTable tableId fun table => table.addNewColumn column
  | updateColumn tableId column =>
    schema.modifyTable tableId fun table => table.updateColumn column
  | removeColumn tableId columnId =>
    schema.modifyTable tableId fun table => table.removeColumn columnId
  | addRelationship relationship => .ok (schema.addRelationship relationship.normalized)
  | updateRelationship relationship =>
    schema.modifyRelationship relationship.id fun _ => relationship.normalized
  | removeRelationship relationshipId =>
    if schema.relationships.any fun known => known.id == relationshipId then
      .ok { schema with
        relationships := schema.relationships.filter fun known => known.id != relationshipId }
    else .error (.notFound .relationship relationshipId)
  | setCardinality relationshipId cardinality =>
    schema.modifyRelationship relationshipId fun relationship =>
      ({ relationship with cardinality } : Relationship).normalized

end DbSchema
