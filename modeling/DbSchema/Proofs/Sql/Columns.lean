import DbSchema.Proofs.Sql.Provision

/-!
# Columns that statements use

A schema mentions columns by name, in indexes, foreign keys and relationships, and nothing but the
schema itself sees to it that they are there. `ColumnClosed` says that all of them are, and
`providesColumns_scriptOf` what it is good for: each column that a statement of the script uses is
one that the creation of its table declares. The columns of primary keys, of comments and of
junction tables need no such condition, because they are taken from the table itself.
-/

namespace DbSchema

/-- The names of the columns of a table. -/
def Table.columnNames (table : Table) : List String :=
  table.columns.map Column.name

/-- The columns that a table mentions, each behind the name of its table. -/
def Table.columnMentions (table : Table) : List (String × String) :=
  (table.indexes.flatMap fun index => index.columns.map fun column => (table.name, column))
    ++ table.foreignKeys.flatMap fun key =>
      [(table.name, key.column), (key.referencedTable, key.referencedColumn)]

/-- The columns that a relationship mentions, each behind the name of its table. -/
def Relationship.columnMentions (relationship : Relationship) : List (String × String) :=
  [(relationship.sourceTable, relationship.sourceColumn),
    (relationship.targetTable, relationship.targetColumn)]

namespace Schema

/-- The columns that a schema mentions, each behind the name of its table. -/
def columnMentions (schema : Schema) : List (String × String) :=
  schema.tables.flatMap Table.columnMentions
    ++ schema.relationships.flatMap Relationship.columnMentions

/-- Whether a table with one name has a column with the other. -/
def HasColumn (schema : Schema) (table column : String) : Prop :=
  ∃ known ∈ schema.tables, known.name = table ∧ column ∈ known.columnNames

instance (schema : Schema) (table column : String) : Decidable (schema.HasColumn table column) :=
  inferInstanceAs
    (Decidable (∃ known ∈ schema.tables, known.name = table ∧ column ∈ known.columnNames))

/-- Whether the columns of indexes and foreign keys are columns of their table, and those that
foreign keys and relationships refer to are columns of the table that they name. -/
structure ColumnClosed (schema : Schema) : Prop where
  indexes : ∀ table ∈ schema.tables, ∀ index ∈ table.indexes, ∀ column ∈ index.columns,
    column ∈ table.columnNames
  keys : ∀ table ∈ schema.tables, ∀ key ∈ table.foreignKeys,
    key.column ∈ table.columnNames ∧ schema.HasColumn key.referencedTable key.referencedColumn
  ends : ∀ relationship ∈ schema.relationships,
    schema.HasColumn relationship.sourceTable relationship.sourceColumn
      ∧ schema.HasColumn relationship.targetTable relationship.targetColumn

instance (schema : Schema) : Decidable schema.ColumnClosed :=
  decidable_of_iff
    ((∀ table ∈ schema.tables, ∀ index ∈ table.indexes, ∀ column ∈ index.columns,
        column ∈ table.columnNames)
      ∧ (∀ table ∈ schema.tables, ∀ key ∈ table.foreignKeys, key.column ∈ table.columnNames
        ∧ schema.HasColumn key.referencedTable key.referencedColumn)
      ∧ ∀ relationship ∈ schema.relationships,
        schema.HasColumn relationship.sourceTable relationship.sourceColumn
          ∧ schema.HasColumn relationship.targetTable relationship.targetColumn)
    ⟨fun ⟨indexes, keys, ends⟩ => ⟨indexes, keys, ends⟩,
      fun closed => ⟨closed.indexes, closed.keys, closed.ends⟩⟩

end Schema

section Mentions

variable {schema : Schema} (apart : (schema.tables.map Table.name).Nodup)

include apart

/-- With different names for all tables, the columns under the name of a table are its own. -/
theorem hasColumn_iff_of_mem {table : Table} (member : table ∈ schema.tables) {column : String} :
    schema.HasColumn table.name column ↔ column ∈ table.columnNames := by
  constructor
  · rintro ⟨known, inSchema, same, there⟩
    rwa [← List.inj_on_of_nodup_map apart inSchema member same]
  · exact fun there => ⟨table, member, rfl, there⟩

/-- With different names for all tables, a schema is closed exactly when it has all columns that it
mentions. -/
theorem columnClosed_iff :
    schema.ColumnClosed ↔
      ∀ mention ∈ schema.columnMentions, schema.HasColumn mention.1 mention.2 := by
  have mentions : (∀ mention ∈ schema.columnMentions, schema.HasColumn mention.1 mention.2) ↔
      (∀ table ∈ schema.tables,
        (∀ index ∈ table.indexes, ∀ column ∈ index.columns, schema.HasColumn table.name column)
          ∧ ∀ key ∈ table.foreignKeys, schema.HasColumn table.name key.column
            ∧ schema.HasColumn key.referencedTable key.referencedColumn)
        ∧ ∀ relationship ∈ schema.relationships,
          schema.HasColumn relationship.sourceTable relationship.sourceColumn
            ∧ schema.HasColumn relationship.targetTable relationship.targetColumn := by
    simp only [Schema.columnMentions, Table.columnMentions, Relationship.columnMentions,
      List.forall_mem_append, List.forall_mem_flatMap, List.forall_mem_map, List.forall_mem_cons,
      List.not_mem_nil, false_implies, implies_true, and_true]
  rw [mentions]
  constructor
  · intro closed
    refine ⟨fun table member => ⟨fun index inTable column inIndex => ?_, fun key inTable => ?_⟩,
      closed.ends⟩
    · rw [hasColumn_iff_of_mem apart member]
      exact closed.indexes table member index inTable column inIndex
    · rw [hasColumn_iff_of_mem apart member]
      exact closed.keys table member key inTable
  · rintro ⟨tables, ends⟩
    refine ⟨fun table member index inTable column inIndex => ?_, fun table member key inTable => ?_,
      ends⟩
    · rw [← hasColumn_iff_of_mem apart member]
      exact (tables table member).1 index inTable column inIndex
    · rw [← hasColumn_iff_of_mem apart member]
      exact (tables table member).2 key inTable

end Mentions

namespace Sql

/-- The column that a definition in a table declares. -/
def TableElement.columnName? : TableElement → Option String
  | column clause => some clause.name
  | _ => none

/-- The columns that a foreign key constraint of a table takes to be there. -/
def ReferenceClause.columnUses (table : TableName) (clause : ReferenceClause) :
    List (TableName × String) :=
  [(table, clause.column), (clause.table, clause.referencedColumn)]

/-- The columns that a definition in a table takes to be there. -/
def TableElement.columnUses (table : TableName) : TableElement → List (TableName × String)
  | column _ => []
  | primaryKey columns => columns.map fun column => (table, column)
  | reference clause => clause.columnUses table

namespace Statement

/-- The columns of the table that a statement creates. -/
def columns : Statement → List String
  | createTable _ elements _ => elements.filterMap TableElement.columnName?
  | _ => []

/-- The columns that a statement takes to be there, each behind the name of its table. -/
def columnUses : Statement → List (TableName × String)
  | createTable table elements _ => elements.flatMap (TableElement.columnUses table)
  | commentOnColumn table column _ => [(table, column)]
  | createIndex _ _ table _ columns => columns.map fun column => (table, column)
  | addReference table clause => clause.columnUses table
  | _ => []

end Statement

/-- Whether the creation of a table is among the statements, and declares a column. -/
def Provided (statements : List Statement) (column : TableName × String) : Prop :=
  ∃ creation ∈ statements, creation.created? = some column.1 ∧ column.2 ∈ creation.columns

instance (statements : List Statement) (column : TableName × String) :
    Decidable (Provided statements column) :=
  inferInstanceAs (Decidable (∃ creation ∈ statements,
    creation.created? = some column.1 ∧ column.2 ∈ creation.columns))

/-- Whether every column that a statement of a script uses is one that the creation of its table
declares. -/
def Script.ProvidesColumns (script : Script) : Prop :=
  ∀ statement ∈ script.statements, ∀ column ∈ statement.columnUses,
    Provided script.statements column

section Provisions

variable {dialect : Dialect} {schema : Schema}

/-- The columns of a table are declared where it is created. -/
theorem provided_of_mem {table : Table} (member : table ∈ schema.tables) {column : String}
    (there : column ∈ table.columnNames) :
    Provided (statementsOf dialect schema) (nameOf dialect table, column) := by
  refine ⟨_, tableStatement_mem_statementsOf member, rfl, ?_⟩
  obtain ⟨known, inTable, rfl⟩ := List.mem_map.1 there
  refine List.mem_filterMap.2 ⟨.column (columnClause dialect table.name known), ?_, rfl⟩
  exact mem_tableElements.2 (.inl ⟨known, inTable, rfl⟩)

/-- The statement that creates a table uses its own columns. -/
theorem provided_of_tableStatement {table : Table} (member : table ∈ schema.tables)
    {column : TableName × String} (used : column ∈ (tableStatement dialect table).columnUses) :
    Provided (statementsOf dialect schema) column := by
  obtain ⟨element, inTable, used⟩ := List.mem_flatMap.1 used
  obtain ⟨known, -, rfl⟩ | ⟨-, rfl⟩ := mem_tableElements.1 inTable
  · simp [TableElement.columnUses] at used
  · obtain ⟨name, inKey, rfl⟩ := List.mem_map.1 used
    obtain ⟨known, isPrimary, rfl⟩ := List.mem_map.1 inKey
    exact provided_of_mem member (List.mem_map_of_mem (List.mem_of_mem_filter isPrimary))

/-- A comment uses a column of the table that it is about. -/
theorem provided_of_commentStatements {table : Table} (member : table ∈ schema.tables)
    {statement : Statement} (comment : statement ∈ commentStatements dialect table)
    {column : TableName × String} (used : column ∈ statement.columnUses) :
    Provided (statementsOf dialect schema) column := by
  obtain ⟨-, ⟨_, -, rfl⟩ | ⟨known, inTable, _, -, rfl⟩⟩ := mem_commentStatements.1 comment
  · simp [Statement.columnUses] at used
  · obtain rfl := List.mem_singleton.1 used
    exact provided_of_mem member (List.mem_map_of_mem inTable)

variable (apart : (schema.tables.map Table.name).Nodup)

include apart

/-- The columns of a table are declared where it is created, by the name that it is looked up
with. -/
theorem provided_of_hasColumn {table column : String} (there : schema.HasColumn table column) :
    Provided (statementsOf dialect schema) (referencedName dialect schema table, column) := by
  obtain ⟨known, member, rfl, inTable⟩ := there
  rw [referencedName_of_mem apart member]
  exact provided_of_mem member inTable

/-- A junction table declares its key columns itself, and refers to columns of the tables that it
joins. -/
theorem provided_of_createJunctions {statement : Statement}
    (ends : ∀ relationship ∈ schema.relationships,
      schema.HasColumn relationship.sourceTable relationship.sourceColumn
        ∧ schema.HasColumn relationship.targetTable relationship.targetColumn)
    (member : statement ∈ createJunctions dialect schema)
    {column : TableName × String} (used : column ∈ statement.columnUses) :
    Provided (statementsOf dialect schema) column := by
  have inSchema : statement ∈ statementsOf dialect schema := by
    rw [mem_statementsOf]
    tauto
  obtain ⟨relationship, known, -, junction, -, rfl⟩ := mem_createJunctions.1 member
  obtain ⟨source, target⟩ := ends relationship known
  have declared {own : String}
      (isOwn : own = junction.sourceColumn ∨ own = junction.targetColumn) :
      Provided (statementsOf dialect schema) (⟨none, junction.name⟩, own) := by
    refine ⟨_, inSchema, rfl, ?_⟩
    rcases isOwn with rfl | rfl <;>
      simp [junctionStatement, Statement.columns, TableElement.columnName?, junctionColumn,
        junctionReference]
  simp only [junctionStatement, Statement.columnUses, junctionColumn, junctionReference,
    TableElement.columnUses, ReferenceClause.columnUses, List.flatMap_cons, List.flatMap_nil,
    List.map_cons, List.map_nil, List.nil_append, List.append_nil, List.cons_append, List.mem_cons,
    List.not_mem_nil, or_false] at used
  rcases used with rfl | rfl | rfl | rfl | rfl | rfl
  · exact declared (.inl rfl)
  · exact declared (.inr rfl)
  · exact declared (.inl rfl)
  · exact provided_of_hasColumn apart source
  · exact declared (.inr rfl)
  · exact provided_of_hasColumn apart target

/-- The script of a closed schema uses only columns that it declares. -/
theorem providesColumns_scriptOf (closed : schema.ColumnClosed) (options : Options)
    (time : Timestamp) : (scriptOf options time schema).ProvidesColumns := by
  intro statement member column used
  rw [statements_scriptOf] at member ⊢
  rcases mem_statementsOf.1 member with
    namespaces | enums | tables | indexes | keys | junctions | routines
  · obtain ⟨-, _, -, _, -, rfl⟩ := mem_createNamespaces.1 namespaces
    simp [Statement.columnUses] at used
  · obtain ⟨-, _, -, _, -, -, rfl⟩ := mem_createEnums.1 enums
    simp [Statement.columnUses] at used
  · obtain ⟨table, inSchema, rfl | comment⟩ := mem_createTables.1 tables
    · exact provided_of_tableStatement inSchema used
    · exact provided_of_commentStatements inSchema comment used
  · obtain ⟨table, inSchema, index, isIndex, rfl⟩ := mem_createIndexes.1 indexes
    obtain ⟨name, indexed, rfl⟩ := List.mem_map.1 used
    exact provided_of_mem inSchema (closed.indexes table inSchema index isIndex name indexed)
  · obtain ⟨table, inSchema, key, isKey, rfl⟩ := mem_addForeignKeys.1 keys
    obtain ⟨own, referenced⟩ := closed.keys table inSchema key isKey
    rcases List.mem_pair.1 used with rfl | rfl
    · exact provided_of_mem inSchema own
    · exact provided_of_hasColumn apart referenced
  · exact provided_of_createJunctions apart closed.ends junctions used
  · obtain ⟨routine, -, rfl⟩ := List.mem_map.1 routines
    have nothing : (createRoutine (options.dialectFor schema) routine).columnUses = [] := by
      cases options.dialectFor schema <;> rfl
    simp [nothing] at used

end Provisions

end Sql

end DbSchema
