import DbSchema.Proofs.Sql.Kinds

/-!
# What statements mention

Which tables and enumeration types a statement of a schema names: the table that it creates, the
tables that it takes to be there, and the types of its columns. Tables are called as the schema
calls them, or by the name that is looked up, so that all mentions of a table are equal when the
names of the tables are different.
-/

namespace DbSchema.Sql

/-- The table that a definition in a table refers to. -/
def TableElement.referred? : TableElement → Option TableName
  | reference clause => some clause.table
  | _ => none

/-- The enumeration type that a definition in a table is declared with. -/
def TableElement.namedType? : TableElement → Option String
  | column clause =>
    match clause.type with
    | .declared name => some name
    | _ => none
  | _ => none

namespace Statement

/-- The name of the table that a statement creates. -/
def created? : Statement → Option TableName
  | createTable table .. => some table
  | _ => none

/-- The names of the tables that a statement takes to be there: the one that it is about, and those
that its constraints refer to. -/
def uses : Statement → List TableName
  | createTable _ elements _ => elements.filterMap TableElement.referred?
  | commentOnTable table _ | commentOnColumn table _ _ | createIndex _ _ table _ _ => [table]
  | addReference table clause => [table, clause.table]
  | _ => []

/-- All names of tables in a statement. -/
def mentions (statement : Statement) : List TableName :=
  statement.created?.toList ++ statement.uses

/-- The enumeration types that a statement takes to be there. -/
def namedTypes : Statement → List String
  | createTable _ elements _ => elements.filterMap TableElement.namedType?
  | _ => []

/-- The place of a kind of statement in a script. Tables that refer to others are the junction
tables, and come late. -/
def stage : Statement → Nat
  | createNamespace _ => 0
  | createEnum .. => 1
  | createTable _ elements _ => if (elements.filterMap TableElement.referred?).isEmpty then 2 else 5
  | commentOnTable .. | commentOnColumn .. => 2
  | createIndex .. => 3
  | addReference .. => 4
  | createFunction .. | createProcedure .. => 6

end Statement

section Kinds

variable {dialect : Dialect} {schema : Schema} {statement : Statement}

/-- The statement of a table refers to no other. -/
@[simp] theorem uses_tableStatement (table : Table) :
    (tableStatement dialect table).uses = [] := by
  rw [tableStatement, Statement.uses, List.filterMap_eq_nil_iff]
  intro element member
  obtain ⟨column, -, rfl⟩ | ⟨-, rfl⟩ := mem_tableElements.1 member <;> rfl

@[simp] theorem stage_tableStatement (table : Table) :
    (tableStatement dialect table).stage = 2 := by
  have noReferences : (tableStatement dialect table).uses = [] := uses_tableStatement table
  simp only [tableStatement, Statement.uses] at noReferences
  simp [tableStatement, Statement.stage, noReferences]

/-- A comment is about its table and nothing else. -/
theorem parts_of_mem_commentStatements {table : Table}
    (member : statement ∈ commentStatements dialect table) :
    statement.created? = none ∧ statement.uses = [nameOf dialect table]
      ∧ statement.namedTypes = [] ∧ statement.stage = 2 := by
  obtain ⟨-, ⟨_, -, rfl⟩ | ⟨_, -, _, -, rfl⟩⟩ := mem_commentStatements.1 member
  · exact ⟨rfl, rfl, rfl, rfl⟩
  · exact ⟨rfl, rfl, rfl, rfl⟩

/-- An index is about its table and nothing else. -/
theorem parts_of_mem_createIndexes (member : statement ∈ createIndexes dialect schema) :
    statement.created? = none
      ∧ (∃ table ∈ schema.tables, statement.uses = [nameOf dialect table])
      ∧ statement.namedTypes = [] ∧ statement.stage = 3 := by
  obtain ⟨table, inSchema, index, -, rfl⟩ := mem_createIndexes.1 member
  exact ⟨rfl, ⟨table, inSchema, rfl⟩, rfl, rfl⟩

/-- A foreign key is about the table that has it and the one that it refers to. -/
theorem parts_of_mem_addForeignKeys (member : statement ∈ addForeignKeys dialect schema) :
    statement.created? = none
      ∧ (∃ table ∈ schema.tables, ∃ name,
        statement.uses = [nameOf dialect table, referencedName dialect schema name])
      ∧ statement.namedTypes = [] ∧ statement.stage = 4 := by
  obtain ⟨table, inSchema, key, -, rfl⟩ := mem_addForeignKeys.1 member
  exact ⟨rfl, ⟨table, inSchema, key.referencedTable, rfl⟩, rfl, rfl⟩

/-- A junction table is in no namespace, and refers to the two tables that it joins. -/
theorem parts_of_mem_createJunctions (member : statement ∈ createJunctions dialect schema) :
    (∃ name, statement.created? = some ⟨none, name⟩)
      ∧ (∃ source target, statement.uses =
        [referencedName dialect schema source, referencedName dialect schema target])
      ∧ statement.namedTypes = [] ∧ statement.stage = 5 := by
  obtain ⟨relationship, -, -, junction, -, rfl⟩ := mem_createJunctions.1 member
  exact ⟨⟨junction.name, rfl⟩, ⟨relationship.sourceTable, relationship.targetTable, rfl⟩, rfl, rfl⟩

/-- A routine is about no table. -/
theorem parts_of_mem_routines (member : statement ∈ schema.routines.map (createRoutine dialect)) :
    statement.created? = none ∧ statement.uses = [] ∧ statement.namedTypes = []
      ∧ statement.stage = 6 := by
  obtain ⟨routine, -, rfl⟩ := List.mem_map.1 member
  cases dialect <;> exact ⟨rfl, rfl, rfl, rfl⟩

end Kinds

section Parts

variable {dialect : Dialect} {schema : Schema} {statement : Statement} {mention : TableName}

/-- A statement of a schema creates one of its tables, or else it has no columns with named types,
creates at most a table in no namespace, and calls what it uses as tables of the schema are called
or looked up. -/
theorem parts_of_mem_statementsOf (member : statement ∈ statementsOf dialect schema) :
    (∃ table ∈ schema.tables, statement = tableStatement dialect table)
      ∨ statement.namedTypes = []
        ∧ (∀ created, statement.created? = some created → created.qualifier = none)
        ∧ ∀ used ∈ statement.uses, (∃ table ∈ schema.tables, used = nameOf dialect table)
          ∨ ∃ name, used = referencedName dialect schema name := by
  rcases mem_statementsOf.1 member with
    namespaces | enums | tables | indexes | keys | junctions | routines
  · obtain ⟨-, _, -, _, -, rfl⟩ := mem_createNamespaces.1 namespaces
    exact .inr ⟨rfl, by simp [Statement.created?], by simp [Statement.uses]⟩
  · obtain ⟨-, _, -, _, -, -, rfl⟩ := mem_createEnums.1 enums
    exact .inr ⟨rfl, by simp [Statement.created?], by simp [Statement.uses]⟩
  · obtain ⟨table, inSchema, made | comment⟩ := mem_createTables.1 tables
    · exact .inl ⟨table, inSchema, made⟩
    · obtain ⟨created, uses, types, -⟩ := parts_of_mem_commentStatements comment
      refine .inr ⟨types, by simp [created], fun used inUses => .inl ⟨table, inSchema, ?_⟩⟩
      simpa [uses] using inUses
  · obtain ⟨created, ⟨table, inSchema, uses⟩, types, -⟩ := parts_of_mem_createIndexes indexes
    refine .inr ⟨types, by simp [created], fun used inUses => .inl ⟨table, inSchema, ?_⟩⟩
    simpa [uses] using inUses
  · obtain ⟨created, ⟨table, inSchema, name, uses⟩, types, -⟩ := parts_of_mem_addForeignKeys keys
    refine .inr ⟨types, by simp [created], fun used inUses => ?_⟩
    rw [uses, List.mem_pair] at inUses
    exact inUses.imp (⟨table, inSchema, ·⟩) (⟨name, ·⟩)
  · obtain ⟨⟨name, created⟩, ⟨source, target, uses⟩, types, -⟩ :=
      parts_of_mem_createJunctions junctions
    refine .inr ⟨types, by simp [created], fun used inUses => .inr ?_⟩
    rw [uses, List.mem_pair] at inUses
    exact inUses.elim (⟨source, ·⟩) (⟨target, ·⟩)
  · obtain ⟨created, uses, types, -⟩ := parts_of_mem_routines routines
    exact .inr ⟨types, by simp [created], by simp [uses]⟩

/-- What a statement uses is called as a table of the schema is, or as one that is looked up. -/
theorem uses_of_mem (member : statement ∈ statementsOf dialect schema)
    (used : mention ∈ statement.uses) :
    (∃ table ∈ schema.tables, mention = nameOf dialect table)
      ∨ ∃ name, mention = referencedName dialect schema name := by
  rcases parts_of_mem_statementsOf member with ⟨table, -, rfl⟩ | ⟨-, -, uses⟩
  · simp at used
  · exact uses mention used

/-- What a statement creates is called as a table of the schema is, or is in no namespace. -/
theorem created_of_mem (member : statement ∈ statementsOf dialect schema)
    (created : statement.created? = some mention) :
    (∃ table ∈ schema.tables, mention = nameOf dialect table) ∨ mention.qualifier = none := by
  rcases parts_of_mem_statementsOf member with ⟨table, inSchema, rfl⟩ | ⟨-, unqualified, -⟩
  · exact .inl ⟨table, inSchema, (Option.some.inj created).symm⟩
  · exact .inr (unqualified mention created)

/-- A qualifier in a statement is the namespace of a table, in a dialect that has namespaces. -/
theorem exists_table_of_qualifier {qualifier : String}
    (member : statement ∈ statementsOf dialect schema) (mentioned : mention ∈ statement.mentions)
    (qualified : mention.qualifier = some qualifier) :
    dialect.hasNamespaces = true ∧ ∃ table ∈ schema.tables, table.qualifier = some qualifier := by
  have named {namespace? : Option String} {name : String}
      (qualified : (tableName dialect namespace? name).qualifier = some qualifier) :
      dialect.hasNamespaces = true ∧ namespace? = some qualifier := by
    simpa [tableName] using qualified
  have ofTable (known : ∃ table ∈ schema.tables, mention = nameOf dialect table) :
      dialect.hasNamespaces = true ∧ ∃ table ∈ schema.tables, table.qualifier = some qualifier := by
    obtain ⟨table, inSchema, rfl⟩ := known
    obtain ⟨has, same⟩ := named qualified
    exact ⟨has, table, inSchema, same⟩
  rcases List.mem_append.1 mentioned with created | used
  · rcases created_of_mem member (Option.mem_toList.1 created) with known | unqualified
    · exact ofTable known
    · simp [unqualified] at qualified
  · rcases uses_of_mem member used with known | ⟨name, rfl⟩
    · exact ofTable known
    · obtain ⟨has, found⟩ := named qualified
      obtain ⟨table, isTable, same⟩ := Option.bind_eq_some_iff.1 found
      exact ⟨has, table, List.mem_of_find?_eq_some isTable, same⟩

/-- The type of a column has a name exactly when it is an enumeration with values, in a dialect that
declares them. -/
theorem columnType_eq_declared_iff {table name : String} {column : Column} :
    columnType dialect table column = .declared name ↔
      dialect.declaresEnums = true ∧ isEnumColumn column = true
        ∧ name = enumTypeName table column.name := by
  unfold columnType isEnumColumn
  by_cases isEnum : column.type = .enum
  · by_cases noValues : column.enumValues.isEmpty = true
    · simp [isEnum, noValues]
    · by_cases declares : dialect.declaresEnums = true
      · simp [isEnum, noValues, declares, eq_comm (a := name)]
      · simp [isEnum, noValues, declares]
  · simp [isEnum]

/-- The named types in a statement are those of the columns of a table that it creates. -/
theorem exists_column_of_namedType {name : String}
    (member : statement ∈ statementsOf dialect schema) (named : name ∈ statement.namedTypes) :
    ∃ table ∈ schema.tables, ∃ column ∈ table.columns,
      columnType dialect table.name column = .declared name
        ∧ statement = tableStatement dialect table := by
  rcases parts_of_mem_statementsOf member with ⟨table, inSchema, rfl⟩ | ⟨none, -, -⟩
  · obtain ⟨element, inTable, typed⟩ := List.mem_filterMap.1 named
    obtain ⟨column, isColumn, rfl⟩ | ⟨-, rfl⟩ := mem_tableElements.1 inTable
    · refine ⟨table, inSchema, column, isColumn, ?_, rfl⟩
      simp only [TableElement.namedType?] at typed
      split at typed
      case h_1 other declared =>
        obtain rfl := Option.some.inj typed
        exact declared
      case h_2 => simp at typed
    · simp [TableElement.namedType?] at typed
  · simp [none] at named

/-- With different names for all tables, the table with a name is found under it. -/
theorem findTable?_of_mem (distinct : (schema.tables.map Table.name).Nodup) {table : Table}
    (member : table ∈ schema.tables) : schema.findTable? table.name = some table := by
  unfold Schema.findTable?
  cases found : schema.tables.find? fun known => known.name == table.name with
  | none =>
      have absent := List.find?_eq_none.1 found table member
      simp at absent
  | some known =>
      have named : known.name = table.name := by simpa using List.find?_some found
      exact congrArg some (List.inj_on_of_nodup_map distinct (List.mem_of_find?_eq_some found)
        member named)

/-- With different names for all tables, a table is referred to as it is called. -/
theorem referencedName_of_mem (distinct : (schema.tables.map Table.name).Nodup) {table : Table}
    (member : table ∈ schema.tables) :
    referencedName dialect schema table.name = nameOf dialect table := by
  rw [referencedName, findTable?_of_mem distinct member]
  rfl

/-- With different names for all tables, a statement calls the table that it uses just as the
statement that creates the table does. -/
theorem eq_nameOf_of_uses (distinct : (schema.tables.map Table.name).Nodup) {table : Table}
    (inSchema : table ∈ schema.tables) (member : statement ∈ statementsOf dialect schema)
    (used : mention ∈ statement.uses) (named : mention.name = table.name) :
    mention = nameOf dialect table := by
  rcases uses_of_mem member used with ⟨known, isTable, rfl⟩ | ⟨name, rfl⟩
  · rw [List.inj_on_of_nodup_map distinct isTable inSchema named]
  · obtain rfl : name = table.name := named
    exact referencedName_of_mem distinct inSchema

end Parts

end DbSchema.Sql
