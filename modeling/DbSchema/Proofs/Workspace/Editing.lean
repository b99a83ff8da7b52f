import DbSchema.Workspace.Edit
import Mathlib.Data.List.Nodup

/-!
# What accepted edits do

An edit that addresses something by an identifier changes the first one that has it. `IsFirst` says
where that stands, and the lemmas here say for each kind of edit when it is accepted and what comes
of it, so that no other proof looks into the definitions of edits. `Edited` follows a schema through
runs of accepted edits.
-/

namespace DbSchema

/-- Where the first element that satisfies a test stands in a list. -/
structure IsFirst {α : Type} (test : α → Bool) (list before : List α) (element : α)
    (after : List α) : Prop where
  split : list = before ++ element :: after
  earlier : ∀ other ∈ before, test other = false
  passes : test element = true

section Places

variable {α : Type} {test : α → Bool} {list : List α}

/-- The first element that satisfies the test is the one that is found. -/
theorem IsFirst.find? {before after : List α} {element : α}
    (first : IsFirst test list before element after) : list.find? test = some element :=
  List.find?_eq_some_iff_append.2
    ⟨first.passes, before, after, first.split, by simpa using first.earlier⟩

/-- What is found is the first element that satisfies the test. -/
theorem exists_isFirst_of_find? {element : α} (found : list.find? test = some element) :
    ∃ before after, IsFirst test list before element after := by
  obtain ⟨passes, before, after, split, earlier⟩ := List.find?_eq_some_iff_append.1 found
  exact ⟨before, after, split, by simpa using earlier, passes⟩

/-- There is only one place of the first element. -/
theorem IsFirst.unique {before after before' after' : List α} {element element' : α}
    (first : IsFirst test list before element after)
    (second : IsFirst test list before' element' after') :
    before = before' ∧ element = element' ∧ after = after' := by
  have same : element = element' := Option.some.inj (first.find?.symm.trans second.find?)
  have prefixes : before = before' := by
    have taken {before after : List α} {element : α}
        (first : IsFirst test list before element after) :
        list.takeWhile (!test ·) = before := by
      rw [first.split, List.takeWhile_append_of_pos (by simpa using first.earlier),
        List.takeWhile_cons_of_neg (by simp [first.passes]), List.append_nil]
    exact (taken first).symm.trans (taken second)
  subst same prefixes
  have split := first.split.symm.trans second.split
  simpa using split

/-- What is changed when the first element that satisfies a test is. -/
theorem modifyFirst?_eq_some_iff {change : α → α} {changed : List α} :
    modifyFirst? test change list = some changed ↔
      ∃ before element after, IsFirst test list before element after
        ∧ changed = before ++ change element :: after := by
  induction list generalizing changed with
  | nil =>
      refine ⟨fun impossible => by simp [modifyFirst?] at impossible, ?_⟩
      rintro ⟨before, element, after, first, -⟩
      simpa using first.split
  | cons head rest inductionHypothesis =>
      rw [modifyFirst?]
      split
      case isTrue passes =>
        constructor
        · rintro ⟨rfl⟩
          exact ⟨[], head, rest, ⟨rfl, by simp, passes⟩, rfl⟩
        · rintro ⟨before, element, after, first, rfl⟩
          obtain ⟨rfl, rfl, rfl⟩ := first.unique (⟨rfl, by simp, passes⟩ :
            IsFirst test (head :: rest) [] head rest)
          rfl
      case isFalse fails =>
        rw [Option.map_eq_some_iff]
        constructor
        · rintro ⟨tail, found, rfl⟩
          obtain ⟨before, element, after, first, rfl⟩ := inductionHypothesis.1 found
          refine ⟨head :: before, element, after, ⟨?_, ?_, first.passes⟩, rfl⟩
          · rw [first.split, List.cons_append]
          · intro other member
            rcases List.mem_cons.1 member with rfl | member
            · simpa using fails
            · exact first.earlier other member
        · rintro ⟨before, element, after, first, rfl⟩
          cases before with
          | nil =>
              obtain ⟨rfl, -⟩ : head = element ∧ rest = after := by simpa using first.split
              exact absurd first.passes fails
          | cons other before =>
              obtain ⟨rfl, split⟩ : head = other ∧ rest = before ++ element :: after := by
                simpa using first.split
              have behind : IsFirst test rest before element after :=
                ⟨split, fun other member => first.earlier other (by simp [member]), first.passes⟩
              exact ⟨_, inductionHypothesis.2 ⟨before, element, after, behind, rfl⟩, rfl⟩

/-- The first element that satisfies the test is the one that is changed. -/
theorem IsFirst.modifyFirst? {before after : List α} {element : α} (change : α → α)
    (first : IsFirst test list before element after) :
    modifyFirst? test change list = some (before ++ change element :: after) :=
  modifyFirst?_eq_some_iff.2 ⟨before, element, after, first, rfl⟩

/-- What stands in the place of the first element that satisfies the test is the first one, if it
satisfies the test too. -/
theorem IsFirst.replace {before after : List α} {old new : α}
    (first : IsFirst test list before old after) (passes : test new = true) :
    IsFirst test (before ++ new :: after) before new after :=
  ⟨rfl, first.earlier, passes⟩

/-- When all elements of a list have a property, and one is replaced, all still have it exactly when
the new one does. -/
theorem forall_mem_replaced_iff {property : α → Prop} {before after : List α}
    {old new : α} (all : ∀ element ∈ before ++ old :: after, property element) :
    (∀ element ∈ before ++ new :: after, property element) ↔ property new := by
  simp only [List.forall_mem_append, List.forall_mem_cons] at all ⊢
  obtain ⟨early, -, late⟩ := all
  exact ⟨fun every => every.2.1, fun holds => ⟨early, holds, late⟩⟩

end Places

section Keys

variable {α : Type} {key : α → String} {list before after : List α} {element : α}

/-- Elements differ in a key exactly when those around one of them do and none has its key. -/
theorem nodup_map_middle :
    ((before ++ element :: after).map key).Nodup ↔
      ((before ++ after).map key).Nodup ∧ ∀ other ∈ before ++ after, key other ≠ key element := by
  rw [List.map_append, List.map_cons, List.nodup_middle, List.nodup_cons, ← List.map_append,
    and_comm, List.mem_map]
  simp only [not_exists, not_and]

/-- Where elements differ in a key, each is the first one with its key. -/
theorem exists_isFirst_of_mem (apart : (list.map key).Nodup) (member : element ∈ list) :
    ∃ before after, IsFirst (fun known => key known == key element) list before element after := by
  obtain ⟨before, after, split⟩ := List.append_of_mem member
  rw [split] at apart
  refine ⟨before, after, split, fun other earlier => ?_, beq_self_eq_true _⟩
  exact beq_eq_false_iff_ne.2 ((nodup_map_middle.1 apart).2 other (List.mem_append_left _ earlier))

/-- Where elements differ in a key, only one has a given key. -/
theorem IsFirst.eq_of_key {wanted : String}
    (first : IsFirst (fun known => key known == wanted) list before element after)
    (apart : (list.map key).Nodup) {other : α} (member : other ∈ list)
    (same : key other = wanted) : other = element := by
  have named : key element = wanted := by simpa using first.passes
  have inList : element ∈ list := by simp [first.split]
  exact List.inj_on_of_nodup_map apart member inList (same.trans named.symm)

/-- Where elements differ in a key, those around the one with a given key are all that do not have
it. -/
theorem IsFirst.mem_around_iff {wanted : String}
    (first : IsFirst (fun known => key known == wanted) list before element after)
    (apart : (list.map key).Nodup) {other : α} :
    other ∈ before ++ after ↔ other ∈ list ∧ key other ≠ wanted := by
  have named : key element = wanted := by simpa using first.passes
  have differ := (nodup_map_middle.1 (first.split ▸ apart)).2
  rw [named] at differ
  have members : other ∈ list ↔ other = element ∨ other ∈ before ++ after := by
    rw [first.split, List.mem_append, List.mem_cons, List.mem_append]
    exact or_left_comm
  rw [members]
  constructor
  · exact fun around => ⟨.inr around, differ other around⟩
  · rintro ⟨rfl | around, other⟩
    · exact absurd named other
    · exact around

end Keys

section Tables

variable {schema changed : Schema} {tableId : String}

/-- A name is free exactly when only the excepted table may have it. -/
theorem hasOtherTable_eq_false_iff {name : String} {except : Option String} :
    schema.hasOtherTable name except = false ↔
      ∀ known ∈ schema.tables, known.name = name → some known.id = except := by
  simp [Schema.hasOtherTable]

/-- A table is added exactly when no table has its name. -/
theorem addTable_eq_ok_iff {table : Table} :
    (Edit.addTable table).apply schema = .ok changed ↔
      (∀ known ∈ schema.tables, known.name ≠ table.name) ∧ changed = schema.addTable table := by
  have free : schema.hasOtherTable table.name none = false ↔
      ∀ known ∈ schema.tables, known.name ≠ table.name := by
    simp [hasOtherTable_eq_false_iff]
  rw [← free]
  simp only [Edit.apply]
  cases schema.hasOtherTable table.name none with
  | true => simp
  | false => simp [eq_comm]

/-- A table is changed exactly when it exists and the change of it is accepted. -/
theorem modifyTable_eq_ok_iff {change : Table → Except EditError Table} :
    schema.modifyTable tableId change = .ok changed ↔
      ∃ before table after new,
        IsFirst (fun table => table.id == tableId) schema.tables before table after
          ∧ change table = .ok new
          ∧ changed = { schema with tables := before ++ new :: after } := by
  unfold Schema.modifyTable
  constructor
  · intro accepted
    split at accepted
    case h_1 => simp at accepted
    case h_2 table found =>
      obtain ⟨before, after, first⟩ := exists_isFirst_of_find? found
      cases result : change table with
      | error => simp [result, bind, Except.bind] at accepted
      | ok new =>
          refine ⟨before, table, after, new, first, result, ?_⟩
          simpa [result, first.modifyFirst?, bind, Except.bind, pure, Except.pure, eq_comm]
            using accepted
  · rintro ⟨before, table, after, new, first, result, rfl⟩
    rw [first.find?]
    simp [result, first.modifyFirst?, bind, Except.bind, pure, Except.pure]

/-- A table is replaced exactly when it exists and no other table has the new name. -/
theorem updateTable_eq_ok_iff {table : Table} :
    schema.updateTable table = .ok changed ↔
      schema.hasOtherTable table.name (some table.id) = false
        ∧ ∃ before old after,
          IsFirst (fun known => known.id == table.id) schema.tables before old after
            ∧ changed = (if old.name == table.name then
              { schema with tables := before ++ table :: after }
              else ({ schema with tables := before ++ table :: after } : Schema).renameMentions
                old.name table.name) := by
  have replaced {before after : List Table} {old : Table}
      (first : IsFirst (fun known => known.id == table.id) schema.tables before old after) :
      schema.modifyTable table.id (fun _ => .ok table) =
        .ok { schema with tables := before ++ table :: after } :=
    modifyTable_eq_ok_iff.2 ⟨before, old, after, table, first, rfl, rfl⟩
  unfold Schema.updateTable
  cases taken : schema.hasOtherTable table.name (some table.id) with
  | true => simp
  | false =>
      constructor
      · intro accepted
        simp only [Bool.false_eq_true, ↓reduceIte] at accepted
        split at accepted
        case h_1 => simp at accepted
        case h_2 old found =>
          obtain ⟨before, after, first⟩ := exists_isFirst_of_find? found
          refine ⟨rfl, before, old, after, first, ?_⟩
          rw [replaced first] at accepted
          exact (Except.ok.inj accepted).symm
      · rintro ⟨-, before, old, after, first, rfl⟩
        simp only [Bool.false_eq_true, ↓reduceIte]
        rw [first.find?, replaced first]
        rfl

/-- A table is removed exactly when it exists. -/
theorem removeTable_eq_ok_iff :
    (Edit.removeTable tableId).apply schema = .ok changed ↔
      ∃ before table after,
        IsFirst (fun table => table.id == tableId) schema.tables before table after
          ∧ changed = schema.withoutTable tableId table.name := by
  simp only [Edit.apply]
  constructor
  · intro accepted
    split at accepted
    case h_1 => simp at accepted
    case h_2 table found =>
      obtain ⟨before, after, first⟩ := exists_isFirst_of_find? found
      exact ⟨before, table, after, first, (Except.ok.inj accepted).symm⟩
  · rintro ⟨before, table, after, first, rfl⟩
    rw [first.find?]

end Tables

section Columns

variable {table changed : Table} {column : Column}

/-- The name of a column is free exactly when only columns with its identifier have it. -/
theorem hasOtherColumn_eq_false_iff :
    table.hasOtherColumn column = false ↔
      ∀ known ∈ table.columns, known.name = column.name → known.id = column.id := by
  simp [Table.hasOtherColumn]

/-- A column is added exactly when no column has its name. -/
theorem addNewColumn_eq_ok_iff :
    table.addNewColumn column = .ok changed ↔
      (∀ known ∈ table.columns, known.name ≠ column.name) ∧ changed = table.addColumn column := by
  unfold Table.addNewColumn
  split
  case isTrue taken =>
    simp only [List.any_eq_true, beq_iff_eq] at taken
    obtain ⟨known, member, same⟩ := taken
    refine ⟨fun impossible => by simp at impossible, fun accepted => ?_⟩
    exact absurd same (accepted.1 known member)
  case isFalse free =>
    simp only [List.any_eq_true, beq_iff_eq, not_exists, not_and] at free
    exact ⟨fun accepted => ⟨free, (Except.ok.inj accepted).symm⟩, fun added => by rw [added.2]⟩

/-- A column is replaced exactly when it exists and no other column has the new name. -/
theorem updateColumn_eq_ok_iff :
    table.updateColumn column = .ok changed ↔
      table.hasOtherColumn column = false
        ∧ ∃ before old after,
          IsFirst (fun known => known.id == column.id) table.columns before old after
            ∧ changed = { table with columns := before ++ column :: after } := by
  unfold Table.updateColumn
  cases taken : table.hasOtherColumn column with
  | true => simp
  | false =>
      simp only [Bool.false_eq_true, ↓reduceIte]
      constructor
      · intro accepted
        split at accepted
        case h_1 => simp at accepted
        case h_2 columns found =>
          obtain ⟨before, old, after, first, rfl⟩ := modifyFirst?_eq_some_iff.1 found
          exact ⟨trivial, before, old, after, first, (Except.ok.inj accepted).symm⟩
      · rintro ⟨-, before, old, after, first, rfl⟩
        rw [first.modifyFirst?]

/-- Columns are removed exactly when there is one with the identifier. -/
theorem removeColumn_eq_ok_iff {columnId : String} :
    table.removeColumn columnId = .ok changed ↔
      (∃ known ∈ table.columns, known.id = columnId)
        ∧ changed = { table with
          columns := table.columns.filter fun known => known.id != columnId } := by
  unfold Table.removeColumn
  split
  case isTrue known =>
    simp only [List.any_eq_true, beq_iff_eq] at known
    exact ⟨fun accepted => ⟨known, (Except.ok.inj accepted).symm⟩, fun removed => by rw [removed.2]⟩
  case isFalse unknown =>
    simp only [List.any_eq_true, beq_iff_eq] at unknown
    simp [unknown]

end Columns

section Relationships

variable {schema changed : Schema} {relationshipId : String}

/-- A relationship is changed exactly when it exists. -/
theorem modifyRelationship_eq_ok_iff {change : Relationship → Relationship} :
    schema.modifyRelationship relationshipId change = .ok changed ↔
      ∃ before relationship after,
        IsFirst (fun known => known.id == relationshipId) schema.relationships before relationship
            after
          ∧ changed =
            { schema with relationships := before ++ change relationship :: after } := by
  unfold Schema.modifyRelationship
  constructor
  · intro accepted
    split at accepted
    case h_1 => simp at accepted
    case h_2 relationships found =>
      obtain ⟨before, relationship, after, first, rfl⟩ := modifyFirst?_eq_some_iff.1 found
      exact ⟨before, relationship, after, first, (Except.ok.inj accepted).symm⟩
  · rintro ⟨before, relationship, after, first, rfl⟩
    rw [first.modifyFirst?]

/-- Relationships are removed exactly when there is one with the identifier. -/
theorem removeRelationship_eq_ok_iff :
    (Edit.removeRelationship relationshipId).apply schema = .ok changed ↔
      (∃ known ∈ schema.relationships, known.id = relationshipId)
        ∧ changed = { schema with
          relationships :=
            schema.relationships.filter fun known => known.id != relationshipId } := by
  simp only [Edit.apply]
  split
  case isTrue known =>
    simp only [List.any_eq_true, beq_iff_eq] at known
    exact ⟨fun accepted => ⟨known, (Except.ok.inj accepted).symm⟩, fun removed => by rw [removed.2]⟩
  case isFalse unknown =>
    simp only [List.any_eq_true, beq_iff_eq] at unknown
    simp [unknown]

/-- Whether a relationship has names for a junction table does not touch its ends. -/
theorem normalized_tables (relationship : Relationship) :
    relationship.normalized.sourceTable = relationship.sourceTable
      ∧ relationship.normalized.targetTable = relationship.targetTable := by
  unfold Relationship.normalized
  split <;> exact ⟨rfl, rfl⟩

end Relationships

section Times

variable (schema : Schema) (time : Timestamp)

/-- A change of a table does not depend on when the schema was updated. -/
theorem modifyTable_updated (tableId : String) (change : Table → Except EditError Table) :
    ({ schema with updatedAt := time } : Schema).modifyTable tableId change =
      (schema.modifyTable tableId change).map
        fun changed => { changed with updatedAt := time } := by
  unfold Schema.modifyTable
  dsimp only
  cases schema.tables.find? fun table => table.id == tableId with
  | none => rfl
  | some table =>
      dsimp only
      cases change table <;> rfl

/-- No edit depends on when the schema was updated. -/
theorem apply_updated (edit : Edit) :
    edit.apply { schema with updatedAt := time } =
      (edit.apply schema).map fun changed => { changed with updatedAt := time } := by
  have sameNames :
      ({ schema with updatedAt := time } : Schema).hasOtherTable = schema.hasOtherTable := rfl
  cases edit with
  | rename | describe | setDialect | addRelationship => rfl
  | addTable table =>
      rw [Edit.apply, Edit.apply, sameNames]
      cases schema.hasOtherTable table.name none <;> rfl
  | updateTable table =>
      rw [Edit.apply, Edit.apply, Schema.updateTable, Schema.updateTable, sameNames,
        modifyTable_updated]
      cases schema.hasOtherTable table.name (some table.id) with
      | true => rfl
      | false =>
          cases schema.tables.find? fun known => known.id == table.id with
          | none => rfl
          | some old =>
              cases schema.modifyTable table.id fun _ => .ok table with
              | error => rfl
              | ok replaced =>
                  simp only [Except.map, bind, Except.bind, pure, Except.pure]
                  cases old.name == table.name <;> rfl
  | removeTable tableId =>
      simp only [Edit.apply]
      cases schema.tables.find? fun table => table.id == tableId <;> rfl
  | addColumn | updateColumn | removeColumn => exact modifyTable_updated schema time _ _
  | removeRelationship relationshipId =>
      simp only [Edit.apply]
      split <;> rfl
  | updateRelationship | setCardinality =>
      simp only [Edit.apply, Schema.modifyRelationship]
      split <;> rfl

end Times

section Runs

/-- The schemas that a first one is edited to, by accepted edits that are of a kind where they are
made. An edit may leave its time on the schema. -/
inductive Edited (kind : Schema → Edit → Prop) (first : Schema) : Schema → Prop where
  | start : Edited kind first first
  | edit {schema changed : Schema} {edit : Edit} (run : Edited kind first schema)
      (ofKind : kind schema edit) (accepted : edit.apply schema = .ok changed)
      (time : Timestamp) : Edited kind first { changed with updatedAt := time }

/-- What edits of a kind keep, whatever the time, runs of them keep. -/
theorem Edited.keeps {kind : Schema → Edit → Prop} {motive : Schema → Prop}
    {first last : Schema} (run : Edited kind first last)
    (step : ∀ {schema edit changed}, motive schema → kind schema edit →
      edit.apply schema = .ok changed → motive changed)
    (timeless : ∀ {schema} time, motive schema → motive { schema with updatedAt := time })
    (holds : motive first) : motive last := by
  induction run with
  | start => exact holds
  | edit run ofKind accepted time inductionHypothesis =>
      exact timeless time (step inductionHypothesis ofKind accepted)

end Runs

end DbSchema
