import DbSchema.Proofs.Sql.Isolation
import DbSchema.Proofs.Sql.Mentions
import DbSchema.Schema.Construction

/-!
# Statements come after what they use

What a statement uses is created by an earlier one: the namespaces that qualify its tables, the
enumeration types of its columns, and the tables that it is about or refers to, under the very name
that it gives them. `Precedes` says this for two statements of a script, and `precedes_append` gets
it from a place in the script up to which the later statement does not stand.
-/

namespace DbSchema.Sql

/-- The statements of a script, in order. -/
def Script.statements (script : Script) : List Statement :=
  script.sections.flatMap fun part => part.entries.flatten

/-- Whether the first statement stands before every occurrence of the second one. -/
def Precedes (statements : List Statement) (first second : Statement) : Prop :=
  ∀ before after, statements = before ++ second :: after → first ∈ before

/-- What stands in the first part of a script, while a statement does not, precedes the
statement. -/
theorem precedes_append {early : List Statement} (late : List Statement)
    {first second : Statement} (there : first ∈ early) (absent : second ∉ early) :
    Precedes (early ++ late) first second := by
  intro before after split
  rcases List.append_eq_append_iff.1 split with ⟨middle, rfl, -⟩ | ⟨middle, rfl, rest⟩
  · exact List.mem_append_left _ there
  · cases middle with
    | nil => simpa using there
    | cons head middle =>
        obtain ⟨rfl, -⟩ := List.cons_eq_cons.1 rest
        simp at absent

/-- The statements behind those that declare namespaces and enumeration types. -/
def laterStatements (dialect : Dialect) (schema : Schema) : List Statement :=
  (createTables dialect schema).flatten ++ createIndexes dialect schema
    ++ addForeignKeys dialect schema ++ createJunctions dialect schema
    ++ schema.routines.map (createRoutine dialect)

theorem statementsOf_eq_declarations (dialect : Dialect) (schema : Schema) :
    statementsOf dialect schema =
      createNamespaces dialect schema
        ++ (createEnums dialect schema ++ laterStatements dialect schema) := by
  simp only [statementsOf, laterStatements, List.append_assoc]

section Provisions

variable {dialect : Dialect} {schema : Schema} {statement : Statement} {mention : TableName}

/-- The namespace of a table is created before every statement that mentions it. -/
theorem precedes_createNamespace {qualifier : String}
    (member : statement ∈ statementsOf dialect schema) (mentioned : mention ∈ statement.mentions)
    (qualified : mention.qualifier = some qualifier) :
    Precedes (statementsOf dialect schema) (.createNamespace qualifier) statement := by
  obtain ⟨has, table, inSchema, same⟩ := exists_table_of_qualifier member mentioned qualified
  have there : .createNamespace qualifier ∈ createNamespaces dialect schema :=
    mem_createNamespaces.2 ⟨has, table, inSchema, qualifier, same, rfl⟩
  have absent : statement ∉ createNamespaces dialect schema := fun early => by
    obtain ⟨-, _, -, _, -, rfl⟩ := mem_createNamespaces.1 early
    simp [Statement.mentions, Statement.created?, Statement.uses] at mentioned
  rw [statementsOf_eq_declarations]
  exact precedes_append _ there absent

/-- The type of an enumeration column is declared before the table that has the column. -/
theorem precedes_createEnum {table : Table} {column : Column} {name : String}
    (inSchema : table ∈ schema.tables) (inTable : column ∈ table.columns)
    (typed : columnType dialect table.name column = .declared name) :
    Precedes (statementsOf dialect schema) (.createEnum name column.enumValues)
      (tableStatement dialect table) := by
  obtain ⟨declares, isEnum, rfl⟩ := columnType_eq_declared_iff.1 typed
  have there : .createEnum (enumTypeName table.name column.name) column.enumValues ∈
      createNamespaces dialect schema ++ createEnums dialect schema :=
    List.mem_append_right _
      (mem_createEnums.2 ⟨declares, table, inSchema, column, inTable, isEnum, rfl⟩)
  have absent : tableStatement dialect table ∉
      createNamespaces dialect schema ++ createEnums dialect schema := fun early => by
    rcases List.mem_append.1 early with namespaces | enums
    · obtain ⟨-, _, -, _, -, made⟩ := mem_createNamespaces.1 namespaces
      simp [tableStatement] at made
    · obtain ⟨-, _, -, _, -, -, made⟩ := mem_createEnums.1 enums
      simp [tableStatement] at made
  rw [statementsOf_eq_declarations, ← List.append_assoc]
  exact precedes_append _ there absent

/-- With different names for all tables, a table is created before every statement that uses it:
nothing up to its creation does. -/
theorem precedes_tableStatement (distinct : (schema.tables.map Table.name).Nodup) {table : Table}
    (inSchema : table ∈ schema.tables) (used : mention ∈ statement.uses)
    (named : mention.name = table.name) :
    Precedes (statementsOf dialect schema) (tableStatement dialect table) statement := by
  -- The script is cut right behind the statement that creates the table. Earlier tables have other
  -- names, so that their comments are about others.
  obtain ⟨earlier, later, tables⟩ := List.append_of_mem inSchema
  have others : table.name ∉ earlier.map Table.name := by
    rw [tables, List.map_append, List.map_cons] at distinct
    exact fun taken => List.disjoint_of_nodup_append distinct taken (.head _)
  have absent : statement ∉ createNamespaces dialect schema ++ createEnums dialect schema
      ++ (earlier.map (createTable dialect)).flatten ++ [tableStatement dialect table] := by
    simp only [List.mem_append, not_or]
    refine ⟨⟨⟨fun namespaces => ?_, fun enums => ?_⟩, fun tables => ?_⟩, fun here => ?_⟩
    · obtain ⟨-, _, -, _, -, rfl⟩ := mem_createNamespaces.1 namespaces
      simp [Statement.uses] at used
    · obtain ⟨-, _, -, _, -, -, rfl⟩ := mem_createEnums.1 enums
      simp [Statement.uses] at used
    · obtain ⟨_, inEarlier, here⟩ := List.mem_flatten.1 tables
      obtain ⟨other, isOther, rfl⟩ := List.mem_map.1 inEarlier
      rw [createTable] at here
      rcases List.mem_cons.1 here with rfl | comment
      · simp at used
      · rw [(parts_of_mem_commentStatements comment).2.1, List.mem_singleton] at used
        subst used
        exact others (List.mem_map.2 ⟨other, isOther, named⟩)
    · obtain rfl := List.mem_singleton.1 here
      simp at used
  have split := precedes_append (commentStatements dialect table
    ++ (later.map (createTable dialect)).flatten
    ++ createIndexes dialect schema ++ addForeignKeys dialect schema
    ++ createJunctions dialect schema ++ schema.routines.map (createRoutine dialect))
    (List.mem_append_right _ (List.mem_singleton_self (tableStatement dialect table))) absent
  have created : (createTables dialect schema).flatten =
      (earlier.map (createTable dialect)).flatten ++ (tableStatement dialect table
        :: (commentStatements dialect table ++ (later.map (createTable dialect)).flatten)) := by
    simp [createTables, tables, createTable]
  simpa only [statementsOf, created, List.append_assoc, List.cons_append, List.nil_append]
    using split

end Provisions

section Stages

/-- Whether statements come in the order of their stages, up to one of them. -/
structure StagedUpTo (last : Nat) (statements : List Statement) : Prop where
  ordered : statements.Pairwise fun earlier later => earlier.stage ≤ later.stage
  bounded : ∀ statement ∈ statements, statement.stage ≤ last

/-- Statements of a later stage may follow. -/
theorem StagedUpTo.append {last next : Nat} {statements more : List Statement}
    (staged : StagedUpTo last statements) (later : last ≤ next)
    (level : ∀ statement ∈ more, statement.stage = next) :
    StagedUpTo next (statements ++ more) := by
  have bounded (statement : Statement) (member : statement ∈ statements) :
      statement.stage ≤ next :=
    (staged.bounded statement member).trans later
  refine ⟨List.pairwise_append.2 ⟨staged.ordered, ?_, ?_⟩, fun statement member => ?_⟩
  · exact List.pairwise_of_forall_mem_list fun earlier isEarlier other isOther =>
      (level earlier isEarlier).trans_le (level other isOther).ge
  · intro earlier isEarlier other isOther
    exact (bounded earlier isEarlier).trans (level other isOther).ge
  · rcases List.mem_append.1 member with member | member
    · exact bounded statement member
    · exact (level statement member).le

/-- The statements of a schema come in the order of their stages. -/
theorem staged_statementsOf (dialect : Dialect) (schema : Schema) :
    StagedUpTo 6 (statementsOf dialect schema) := by
  have nothing : StagedUpTo 0 [] := ⟨.nil, by simp⟩
  have namespaces : StagedUpTo 0 ([] ++ createNamespaces dialect schema) :=
    nothing.append (by decide) fun statement member => by
      obtain ⟨-, _, -, _, -, rfl⟩ := mem_createNamespaces.1 member
      rfl
  have enums : StagedUpTo 1 ([] ++ createNamespaces dialect schema ++ createEnums dialect schema) :=
    namespaces.append (by decide) fun statement member => by
      obtain ⟨-, _, -, _, -, -, rfl⟩ := mem_createEnums.1 member
      rfl
  have tables : StagedUpTo 2 ([] ++ createNamespaces dialect schema ++ createEnums dialect schema
      ++ (createTables dialect schema).flatten) :=
    enums.append (by decide) fun statement member => by
      obtain ⟨table, -, rfl | comment⟩ := mem_createTables.1 member
      · exact stage_tableStatement table
      · exact (parts_of_mem_commentStatements comment).2.2.2
  exact (((tables.append (by decide) fun statement member =>
    (parts_of_mem_createIndexes member).2.2.2).append (by decide) fun statement member =>
    (parts_of_mem_addForeignKeys member).2.2.2).append (by decide) fun statement member =>
    (parts_of_mem_createJunctions member).2.2.2).append (by decide) fun statement member =>
    (parts_of_mem_routines member).2.2.2

end Stages

section Declarations

variable {dialect : Dialect} {schema : Schema}

/-- Behind the namespaces and the enumeration types there are no more of them. -/
theorem two_le_stage {statement : Statement} (member : statement ∈ laterStatements dialect schema) :
    2 ≤ statement.stage := by
  simp only [laterStatements, List.mem_append, or_assoc] at member
  rcases member with tables | indexes | keys | junctions | routines
  · obtain ⟨table, -, rfl | comment⟩ := mem_createTables.1 tables
    · simp [stage_tableStatement]
    · simp [(parts_of_mem_commentStatements comment).2.2.2]
  · simp [(parts_of_mem_createIndexes indexes).2.2.2]
  · simp [(parts_of_mem_addForeignKeys keys).2.2.2]
  · simp [(parts_of_mem_createJunctions junctions).2.2.2]
  · simp [(parts_of_mem_routines routines).2.2.2]

/-- Only the first section creates namespaces. -/
theorem mem_createNamespaces_of_mem {qualifier : String}
    (member : .createNamespace qualifier ∈ statementsOf dialect schema) :
    .createNamespace qualifier ∈ createNamespaces dialect schema := by
  rw [statementsOf_eq_declarations] at member
  rcases List.mem_append.1 member with namespaces | behind
  · exact namespaces
  · rcases List.mem_append.1 behind with enums | later
    · obtain ⟨-, _, -, _, -, -, made⟩ := mem_createEnums.1 enums
      simp at made
    · simpa [Statement.stage] using two_le_stage later

/-- Only the second section declares enumeration types. -/
theorem mem_createEnums_of_mem {name : String} {values : List String}
    (member : .createEnum name values ∈ statementsOf dialect schema) :
    .createEnum name values ∈ createEnums dialect schema := by
  rw [statementsOf_eq_declarations] at member
  rcases List.mem_append.1 member with namespaces | behind
  · obtain ⟨-, _, -, _, -, made⟩ := mem_createNamespaces.1 namespaces
    simp at made
  · rcases List.mem_append.1 behind with enums | later
    · exact enums
    · simpa [Statement.stage] using two_le_stage later

/-- No namespace is created twice. -/
theorem count_createNamespace_le_one (qualifier : String) :
    (statementsOf dialect schema).count (.createNamespace qualifier) ≤ 1 := by
  have once : (createNamespaces dialect schema).count (.createNamespace qualifier) ≤ 1 := by
    have apart : (createNamespaces dialect schema).Nodup := by
      unfold createNamespaces
      split
      · exact (nodup_distinct _).map fun _ _ same => Statement.createNamespace.inj same
      · exact .nil
    exact List.nodup_iff_count_le_one.1 apart _
  have noMore : .createNamespace qualifier ∉
      createEnums dialect schema ++ laterStatements dialect schema := fun member => by
    rcases List.mem_append.1 member with enums | later
    · obtain ⟨-, _, -, _, -, -, made⟩ := mem_createEnums.1 enums
      simp at made
    · simpa [Statement.stage] using two_le_stage later
  rw [statementsOf_eq_declarations, List.count_append, List.count_eq_zero_of_not_mem noMore]
  exact once

end Declarations

/-- The statements of the script of a schema are those of the schema. -/
theorem statements_scriptOf (options : Options) (time : Timestamp) (schema : Schema) :
    (scriptOf options time schema).statements =
      statementsOf (options.dialectFor schema) schema :=
  (statementsOf_eq _ _).symm

/-- A table with an enumeration, an index, comments and a foreign key to another table of its
namespace. -/
def postTable : Table :=
  { Table.empty "2" "posts" with
    declaredNamespace := some " auth\n"
    columns := [(Column.ofType "" "state" .enum).withEnumValues ["draft", "it's; live"]]
    indexes := [.onColumns "" "by_state" ["state"]]
    foreignKeys := [.between "" "author" "author_id" "users" "id"]
    comment := some "posts" }

/-- Tables in one namespace, given with blanks around and without, and one in none. -/
def postSchema : Schema :=
  { Schema.empty "1" "s" .mysql default with
    tables := [postTable, .inNamespace (.empty "3" "users") "auth",
      .inNamespace (.empty "4" "log") "Public"]
    relationships := [.joinedBy (.between "5" ("posts", "id") ("users", "id") .manyToMany)
      (.forTables "posts" "users")] }

end DbSchema.Sql
