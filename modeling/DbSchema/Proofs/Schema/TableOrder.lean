import DbSchema.Proofs.Diagram.Pairs
import DbSchema.Proofs.Sql.Mentions
import DbSchema.Schema.Construction
import Mathlib.Data.List.Perm.Basic

/-!
# The order of the tables

What is created for a schema does not depend on the order of its tables, as long as their names are
different. The order comes in where tables are looked up by name, where repeated namespaces are
dropped and where pairs of tables are; with different names a lookup finds the same table in any
order, and the other two keep the same elements, each once.
-/

namespace DbSchema

section Lookups

variable {schema : Schema} {tables : List Table} (apart : (schema.tables.map Table.name).Nodup)
  (reordered : tables.Perm schema.tables)

include apart reordered

/-- With different names for all tables, the table with a name is found in any order of the
tables. -/
theorem findTable?_of_perm (name : String) :
    ({ schema with tables } : Schema).findTable? name = schema.findTable? name := by
  cases found : schema.findTable? name with
  | some table =>
      obtain rfl : table.name = name := by simpa using List.find?_some found
      have inTables : table ∈ tables := reordered.mem_iff.2 (List.mem_of_find?_eq_some found)
      have apart : (({ schema with tables } : Schema).tables.map Table.name).Nodup :=
        (reordered.map Table.name).nodup_iff.2 apart
      exact Sql.findTable?_of_mem apart inTables
  | none =>
      refine List.find?_eq_none.2 fun table inTables => ?_
      exact List.find?_eq_none.1 found table (reordered.mem_iff.1 inTables)

/-- A table is referred to by the same name in any order of the tables. -/
theorem referencedName_of_perm (dialect : Dialect) :
    Sql.referencedName dialect { schema with tables } = Sql.referencedName dialect schema := by
  funext name
  rw [Sql.referencedName, Sql.referencedName, findTable?_of_perm apart reordered]

end Lookups

namespace Sql

/-- The elements that are left when repeated ones are dropped do not depend on the order. -/
theorem distinct_perm {α : Type} [BEq α] [LawfulBEq α] {left right : List α}
    (reordered : left.Perm right) : (distinct left).Perm (distinct right) := by
  refine (List.perm_ext_iff_of_nodup (nodup_distinct left) (nodup_distinct right)).2 ?_
  intro element
  rw [mem_distinct, mem_distinct, reordered.mem_iff]

section Statements

variable (dialect : Dialect) {schema : Schema} {tables : List Table}
  (reordered : tables.Perm schema.tables)

include reordered

theorem createNamespaces_perm :
    (createNamespaces dialect { schema with tables }).Perm (createNamespaces dialect schema) := by
  unfold createNamespaces
  split
  · exact (distinct_perm (reordered.filterMap _)).map _
  · exact .nil

theorem createEnums_perm :
    (createEnums dialect { schema with tables }).Perm (createEnums dialect schema) := by
  unfold createEnums
  split
  · exact reordered.flatMap_right _
  · exact .nil

theorem createTables_perm :
    (createTables dialect { schema with tables }).Perm (createTables dialect schema) :=
  reordered.map _

theorem createIndexes_perm :
    (createIndexes dialect { schema with tables }).Perm (createIndexes dialect schema) :=
  reordered.flatMap_right _

variable (apart : (schema.tables.map Table.name).Nodup)

include apart

theorem addForeignKeys_perm :
    (addForeignKeys dialect { schema with tables }).Perm (addForeignKeys dialect schema) := by
  have same (table : Table) : addForeignKey dialect { schema with tables } table =
      addForeignKey dialect schema table := by
    funext key
    rw [addForeignKey, addForeignKey, referencedName_of_perm apart reordered]
  unfold addForeignKeys
  simp only [same]
  exact reordered.flatMap_right _

/-- Junction tables are created in the order of the relationships, and refer to tables by name
only. -/
theorem createJunctions_of_perm :
    createJunctions dialect { schema with tables } = createJunctions dialect schema := by
  refine List.filterMap_congr fun relationship _ => ?_
  unfold createJunction? junctionStatement junctionReference
  rw [referencedName_of_perm apart reordered]

end Statements

end Sql

/-- Without their order, the pairs of tables that only foreign keys connect do not depend on the
order of the tables. -/
theorem Diagram.implicitPairs_perm {schema : Schema} {tables : List Table}
    (reordered : tables.Perm schema.tables) :
    ((implicitPairs { schema with tables }).map unordered).Perm
      ((implicitPairs schema).map unordered) := by
  have keys : (foreignKeyPairs { schema with tables }).Perm (foreignKeyPairs schema) :=
    reordered.flatMap_right _
  refine (List.perm_ext_iff_of_nodup (nodup_newPairs _ _) (nodup_newPairs _ _)).2 fun pair => ?_
  rw [mem_newPairs_iff, mem_newPairs_iff, (keys.map unordered).mem_iff]

/-- Where all tables have different names, their order decides only about the order of the
statements that create namespaces, enumeration types, tables and indexes and add foreign keys, not
about which there are, and junction tables and routines are created in the same order as well. The
same pairs of tables are linked because of foreign keys, each once, if only the other way round. -/
theorem tables_in_any_order {schema : Schema} (apart : (schema.tables.map Table.name).Nodup)
    {tables : List Table} (reordered : tables.Perm schema.tables) (dialect : Dialect) :
    let other := { schema with tables }
    (Sql.createNamespaces dialect other).Perm (Sql.createNamespaces dialect schema)
      ∧ (Sql.createEnums dialect other).Perm (Sql.createEnums dialect schema)
      ∧ (Sql.createTables dialect other).Perm (Sql.createTables dialect schema)
      ∧ (Sql.createIndexes dialect other).Perm (Sql.createIndexes dialect schema)
      ∧ (Sql.addForeignKeys dialect other).Perm (Sql.addForeignKeys dialect schema)
      ∧ Sql.createJunctions dialect other = Sql.createJunctions dialect schema
      ∧ other.routines.map (Sql.createRoutine dialect) =
        schema.routines.map (Sql.createRoutine dialect)
      ∧ ((Diagram.implicitPairs other).map Diagram.unordered).Perm
        ((Diagram.implicitPairs schema).map Diagram.unordered) :=
  ⟨Sql.createNamespaces_perm dialect reordered, Sql.createEnums_perm dialect reordered,
    Sql.createTables_perm dialect reordered, Sql.createIndexes_perm dialect reordered,
    Sql.addForeignKeys_perm dialect reordered apart,
    Sql.createJunctions_of_perm dialect reordered apart, rfl,
    Diagram.implicitPairs_perm reordered⟩

/-- Two tables in namespaces of their own refer to each other. When they change places, so do the
namespaces, and the pair that their foreign keys connect is turned round, but a foreign key calls
the table that it refers to as before. -/
theorem tables_in_any_order_when_swapped :
    let table (id name other : String) : Table :=
      { Table.empty id name with
        declaredNamespace := some (" of " ++ name)
        foreignKeys := [.between "" ("to_" ++ other) other other "id"] }
    let schema (tables : List Table) : Schema :=
      { Schema.empty "1" "s" .postgresql default with tables }
    let first := schema [table "2" "a" "b", table "3" "b" "a"]
    let second := schema [table "3" "b" "a", table "2" "a" "b"]
    (first.tables.map Table.name).Nodup ∧ second.tables.Perm first.tables
      ∧ Sql.createNamespaces .postgresql first = [.createNamespace "of a", .createNamespace "of b"]
      ∧ Sql.createNamespaces .postgresql second = [.createNamespace "of b", .createNamespace "of a"]
      ∧ (Sql.addForeignKeys .postgresql second).Perm (Sql.addForeignKeys .postgresql first)
      ∧ Diagram.implicitPairs first = [("b", "a")] ∧ Diagram.implicitPairs second = [("a", "b")]
      ∧ ((Diagram.implicitPairs second).map Diagram.unordered).Perm
        ((Diagram.implicitPairs first).map Diagram.unordered) := by
  intro table schema first second
  have apart : (first.tables.map Table.name).Nodup := by decide
  have reordered : second.tables.Perm first.tables := .swap _ _ _
  obtain ⟨-, -, -, -, keys, -, -, pairs⟩ := tables_in_any_order apart reordered .postgresql
  exact ⟨apart, reordered, by decide, by decide, keys, by decide, by decide, pairs⟩

end DbSchema
