import DbSchema.Sql.Script
import Mathlib.Data.List.Nodup

/-!
# The statements of a schema by kind

Which statements each section of a script has, as what there is in the schema that each of them is
made from. What is proved of every statement of a schema goes through these lemmas, kind by kind.
-/

namespace DbSchema.Sql

/-- The statements of a schema, in the order of a script. -/
def statementsOf (dialect : Dialect) (schema : Schema) : List Statement :=
  createNamespaces dialect schema ++ createEnums dialect schema
    ++ (createTables dialect schema).flatten ++ createIndexes dialect schema
    ++ addForeignKeys dialect schema ++ createJunctions dialect schema
    ++ schema.routines.map (createRoutine dialect)

section Lists

variable {α : Type} [BEq α] [LawfulBEq α]

/-- Dropping repeated elements adds to those seen before the ones that are not among them. -/
theorem distinct_from (list seen : List α) (apart : seen.Nodup) :
    (list.foldl (fun seen element =>
        if seen.contains element then seen else seen ++ [element]) seen).Nodup
      ∧ ∀ element, element ∈ (list.foldl (fun seen element =>
        if seen.contains element then seen else seen ++ [element]) seen) ↔
          element ∈ seen ∨ element ∈ list := by
  induction list generalizing seen with
  | nil => simpa using apart
  | cons first list inductionHypothesis =>
      rw [List.foldl_cons]
      split
      case isTrue known =>
        obtain ⟨stillApart, members⟩ := inductionHypothesis seen apart
        have known : first ∈ seen := by simpa using known
        refine ⟨stillApart, fun element => ?_⟩
        rw [members, List.mem_cons]
        grind
      case isFalse fresh =>
        have fresh : first ∉ seen := by simpa using fresh
        have more : (seen ++ [first]).Nodup :=
          List.nodup_append_comm.1 (List.nodup_cons.2 ⟨fresh, apart⟩)
        obtain ⟨stillApart, members⟩ := inductionHypothesis (seen ++ [first]) more
        refine ⟨stillApart, fun element => ?_⟩
        rw [members, List.mem_append, List.mem_singleton, List.mem_cons, or_assoc]

theorem nodup_distinct (list : List α) : (distinct list).Nodup :=
  (distinct_from list [] List.nodup_nil).1

@[simp] theorem mem_distinct {list : List α} {element : α} :
    element ∈ distinct list ↔ element ∈ list := by
  simpa [distinct] using (distinct_from list [] List.nodup_nil).2 element

end Lists

section Kinds

variable {dialect : Dialect} {schema : Schema} {table : Table} {statement : Statement}

/-- The statements of a schema are those of its sections. -/
theorem mem_statementsOf :
    statement ∈ statementsOf dialect schema ↔
      statement ∈ createNamespaces dialect schema ∨ statement ∈ createEnums dialect schema
        ∨ statement ∈ (createTables dialect schema).flatten
        ∨ statement ∈ createIndexes dialect schema ∨ statement ∈ addForeignKeys dialect schema
        ∨ statement ∈ createJunctions dialect schema
        ∨ statement ∈ schema.routines.map (createRoutine dialect) := by
  simp only [statementsOf, List.mem_append, or_assoc]

/-- A statement of the first section creates the namespace of a table. -/
theorem mem_createNamespaces :
    statement ∈ createNamespaces dialect schema ↔
      dialect.hasNamespaces = true ∧ ∃ table ∈ schema.tables, ∃ qualifier,
        table.qualifier = some qualifier ∧ statement = .createNamespace qualifier := by
  unfold createNamespaces
  split
  case isTrue has =>
    simp only [List.mem_map, mem_distinct, List.mem_filterMap, has, true_and]
    grind
  case isFalse hasNot => simp [hasNot]

/-- A statement of the second section declares the type of an enumeration column. -/
theorem mem_createEnums :
    statement ∈ createEnums dialect schema ↔
      dialect.declaresEnums = true ∧ ∃ table ∈ schema.tables, ∃ column ∈ table.columns,
        isEnumColumn column = true
          ∧ statement = .createEnum (enumTypeName table.name column.name) column.enumValues := by
  unfold createEnums
  split
  case isTrue declares =>
    simp only [List.mem_flatMap, List.mem_map, List.mem_filter, declares, true_and]
    grind
  case isFalse declaresNot => simp [declaresNot]

/-- A statement of the third section creates a table or comments on it. -/
theorem mem_createTables :
    statement ∈ (createTables dialect schema).flatten ↔
      ∃ table ∈ schema.tables,
        statement = tableStatement dialect table ∨ statement ∈ commentStatements dialect table := by
  simp [createTables, createTable]

/-- A table has one definition of its primary key if it has one at all. -/
theorem mem_primaryKeyElements {element : TableElement} :
    element ∈ primaryKeyElements table ↔
      table.primaryKey ≠ [] ∧ element = .primaryKey (table.primaryKey.map Column.name) := by
  unfold primaryKeyElements
  split
  case isTrue none => simp [List.isEmpty_iff.1 none]
  case isFalse some =>
    rw [List.isEmpty_iff] at some
    rw [List.mem_singleton, and_iff_right some]

/-- An element of a table defines one of its columns or its primary key. -/
theorem mem_tableElements {element : TableElement} :
    element ∈ tableElements dialect table ↔
      (∃ column ∈ table.columns, element = .column (columnClause dialect table.name column))
        ∨ table.primaryKey ≠ [] ∧ element = .primaryKey (table.primaryKey.map Column.name) := by
  simp [tableElements, mem_primaryKeyElements, eq_comm (a := element)]

/-- A comment is one on the table or on one of its columns. -/
theorem mem_commentStatements :
    statement ∈ commentStatements dialect table ↔
      dialect.commentsInline = false
        ∧ ((∃ comment, table.comment = some comment
            ∧ statement = .commentOnTable (nameOf dialect table) comment)
          ∨ ∃ column ∈ table.columns, ∃ comment, column.comment = some comment
            ∧ statement = .commentOnColumn (nameOf dialect table) column.name comment) := by
  unfold commentStatements
  split
  case isTrue inline => simp [inline]
  case isFalse apart => simp [apart, eq_comm (a := statement)]

/-- A statement of the fourth section creates an index of a table. -/
theorem mem_createIndexes :
    statement ∈ createIndexes dialect schema ↔
      ∃ table ∈ schema.tables, ∃ index ∈ table.indexes,
        statement = createIndex dialect table index := by
  simp [createIndexes, eq_comm (a := statement)]

/-- A statement of the fifth section adds a foreign key of a table. -/
theorem mem_addForeignKeys :
    statement ∈ addForeignKeys dialect schema ↔
      ∃ table ∈ schema.tables, ∃ key ∈ table.foreignKeys,
        statement = addForeignKey dialect schema table key := by
  simp [addForeignKeys, eq_comm (a := statement)]

/-- Just the many-to-many relationships with names for a junction table have one. -/
theorem createJunction?_eq_some_iff {relationship : Relationship} :
    createJunction? dialect schema relationship = some statement ↔
      relationship.cardinality = .manyToMany ∧ ∃ junction, relationship.junction = some junction
        ∧ statement = junctionStatement dialect schema relationship junction := by
  unfold createJunction?
  split
  case h_1 junction joined named =>
    simp [joined, named, eq_comm (a := statement)]
  case h_2 other =>
    refine iff_of_false (by simp) ?_
    rintro ⟨joined, junction, named, -⟩
    exact other junction joined named

/-- A statement of the sixth section creates the junction table of a relationship. -/
theorem mem_createJunctions :
    statement ∈ createJunctions dialect schema ↔
      ∃ relationship ∈ schema.relationships, relationship.cardinality = .manyToMany
        ∧ ∃ junction, relationship.junction = some junction
          ∧ statement = junctionStatement dialect schema relationship junction := by
  simp only [createJunctions, List.mem_filterMap, createJunction?_eq_some_iff]

/-- Every table of a schema is created. -/
theorem tableStatement_mem_statementsOf (member : table ∈ schema.tables) :
    tableStatement dialect table ∈ statementsOf dialect schema :=
  mem_statementsOf.2 (.inr (.inr (.inl (mem_createTables.2 ⟨table, member, .inl rfl⟩))))

end Kinds

end DbSchema.Sql
