import DbSchema.Proofs.Workspace.Editing
import Mathlib.Data.List.Nodup
import Mathlib.Tactic.Tauto

/-!
# Closed schemas stay closed

A schema is closed when its tables can be told apart by identifier and by name, and everything that
mentions a table mentions one that exists. `closed_of_apply` says that an edit keeps this, if what
it brings along mentions only what there is, and `Edited.keeps` carries it through runs of edits.
Mentions are kept apart from the names they are checked against, because a renaming passes through a
schema whose mentions are behind its names.
-/

namespace DbSchema

namespace Schema

/-- The names of the tables. -/
def tableNames (schema : Schema) : List String :=
  schema.tables.map Table.name

/-- Whether all mentions of tables are among the given names. -/
structure MentionsIn (names : List String) (schema : Schema) : Prop where
  ends : ∀ relationship ∈ schema.relationships,
    relationship.sourceTable ∈ names ∧ relationship.targetTable ∈ names
  references : ∀ table ∈ schema.tables, ∀ key ∈ table.foreignKeys, key.referencedTable ∈ names

/-- Tables differ in identifier and in name, and all mentions of tables are names of tables. -/
structure Closed (schema : Schema) : Prop where
  ids : (schema.tables.map Table.id).Nodup
  names : schema.tableNames.Nodup
  mentions : schema.MentionsIn schema.tableNames

end Schema

/-- Whether what an edit brings along mentions only tables of the schema, and a table that it adds
has an identifier of its own. The foreign keys of a table may mention the table itself. -/
def Edit.Admissible (schema : Schema) : Edit → Prop
  | addTable table =>
    (∀ known ∈ schema.tables, known.id ≠ table.id)
      ∧ ∀ key ∈ table.foreignKeys, key.referencedTable ∈ table.name :: schema.tableNames
  | updateTable table =>
    ∀ key ∈ table.foreignKeys, key.referencedTable ∈ table.name :: schema.tableNames
  | addRelationship relationship | updateRelationship relationship =>
    relationship.sourceTable ∈ schema.tableNames ∧ relationship.targetTable ∈ schema.tableNames
  | _ => True

section Mentions

variable {names : List String} {schema : Schema}

theorem Schema.MentionsIn.mono {more : List String} (subset : names ⊆ more)
    (mentions : schema.MentionsIn names) : schema.MentionsIn more :=
  ⟨fun relationship member =>
      ⟨subset (mentions.ends relationship member).1, subset (mentions.ends relationship member).2⟩,
    fun table member key inTable => subset (mentions.references table member key inTable)⟩

/-- Renaming a mention renames what is mentioned. -/
theorem Schema.MentionsIn.renameMentions (old new : String) (mentions : schema.MentionsIn names) :
    (schema.renameMentions old new).MentionsIn (names.map (Schema.renamed old new)) := by
  constructor
  · intro relationship member
    obtain ⟨known, inSchema, rfl⟩ := List.mem_map.1 member
    have ends := mentions.ends known inSchema
    exact ⟨List.mem_map_of_mem ends.1, List.mem_map_of_mem ends.2⟩
  · intro table member key inTable
    obtain ⟨knownTable, inSchema, rfl⟩ := List.mem_map.1 member
    obtain ⟨knownKey, inKnown, rfl⟩ := List.mem_map.1 inTable
    exact List.mem_map_of_mem (mentions.references knownTable inSchema knownKey inKnown)

/-- Replacing a table by one that mentions some names keeps the mentions among them. -/
theorem Schema.MentionsIn.replace {before after : List Table} {old new : Table}
    (split : schema.tables = before ++ old :: after) (mentions : schema.MentionsIn names)
    (references : ∀ key ∈ new.foreignKeys, key.referencedTable ∈ names) :
    ({ schema with tables := before ++ new :: after } : Schema).MentionsIn names := by
  have all := mentions.references
  rw [split] at all
  exact ⟨mentions.ends, (forall_mem_replaced_iff all).2 references⟩

end Mentions

section Steps

variable {schema changed : Schema}

/-- A column edit keeps a schema closed, because it keeps what a table is called and mentions. -/
theorem closed_of_modifyTable {tableId : String} {change : Table → Except EditError Table}
    (closed : schema.Closed)
    (keeps : ∀ table new, change table = .ok new →
      new.id = table.id ∧ new.name = table.name ∧ new.foreignKeys = table.foreignKeys)
    (accepted : schema.modifyTable tableId change = .ok changed) : changed.Closed := by
  obtain ⟨before, table, after, new, first, result, rfl⟩ := modifyTable_eq_ok_iff.1 accepted
  obtain ⟨sameId, sameName, sameKeys⟩ := keeps table new result
  have split := first.split
  have sameNames : ({ schema with tables := before ++ new :: after } : Schema).tableNames =
      schema.tableNames := by
    simp [Schema.tableNames, split, sameName]
  refine ⟨?_, by rw [sameNames]; exact closed.names, ?_⟩
  · simpa [split, sameId] using closed.ids
  · rw [sameNames]
    refine closed.mentions.replace split fun key inTable => ?_
    rw [sameKeys] at inTable
    exact closed.mentions.references table (by simp [split]) key inTable

/-- A change of relationships keeps a schema closed, if it keeps mentioning tables. -/
theorem closed_of_relationships {relationships : List Relationship} (closed : schema.Closed)
    (ends : ∀ relationship ∈ relationships,
      relationship.sourceTable ∈ schema.tableNames ∧ relationship.targetTable ∈ schema.tableNames) :
    ({ schema with relationships } : Schema).Closed :=
  ⟨closed.ids, closed.names, ends, closed.mentions.references⟩

/-- A changed relationship keeps a schema closed, if it mentions tables. -/
theorem closed_of_modifyRelationship {relationshipId : String}
    {change : Relationship → Relationship} (closed : schema.Closed)
    (ends : ∀ relationship ∈ schema.relationships,
      (change relationship).sourceTable ∈ schema.tableNames
        ∧ (change relationship).targetTable ∈ schema.tableNames)
    (accepted : schema.modifyRelationship relationshipId change = .ok changed) :
    changed.Closed := by
  obtain ⟨before, known, after, first, rfl⟩ := modifyRelationship_eq_ok_iff.1 accepted
  have split := first.split
  refine closed_of_relationships closed fun relationship member => ?_
  rcases List.mem_append.1 member with member | member
  · exact closed.mentions.ends relationship (by simp [split, member])
  · rcases List.mem_cons.1 member with rfl | member
    · exact ends known (by simp [split])
    · exact closed.mentions.ends relationship (by simp [split, member])

/-- Adding a table with an identifier and a name of its own keeps a schema closed. -/
theorem closed_of_addTable {table : Table} (closed : schema.Closed)
    (admissible : (Edit.addTable table).Admissible schema)
    (accepted : (Edit.addTable table).apply schema = .ok changed) : changed.Closed := by
  obtain ⟨freshId, references⟩ := admissible
  simp only [Edit.apply] at accepted
  split at accepted
  case isTrue => simp at accepted
  case isFalse free =>
    obtain rfl := Except.ok.inj accepted
    have freshName : table.name ∉ schema.tableNames := by
      simpa [Schema.hasOtherTable, Schema.tableNames] using free
    have sameNames : (schema.addTable table).tableNames = schema.tableNames ++ [table.name] := by
      simp [Schema.addTable, Schema.tableNames]
    have ids : ((schema.addTable table).tables.map Table.id) =
        schema.tables.map Table.id ++ [table.id] := by
      simp [Schema.addTable]
    refine ⟨?_, ?_, ?_⟩
    · rw [ids]
      refine List.nodup_append_comm.1 (List.nodup_cons.2 ⟨?_, closed.ids⟩)
      simpa using freshId
    · rw [sameNames]
      exact List.nodup_append_comm.1 (List.nodup_cons.2 ⟨freshName, closed.names⟩)
    · rw [sameNames]
      refine ⟨fun relationship member => ?_, fun known member key inTable => ?_⟩
      · have ends := closed.mentions.ends relationship member
        exact ⟨List.mem_append_left _ ends.1, List.mem_append_left _ ends.2⟩
      · rcases List.mem_append.1 member with member | member
        · exact List.mem_append_left _ (closed.mentions.references known member key inTable)
        · obtain rfl := List.mem_singleton.1 member
          simpa [or_comm] using references key inTable

/-- Beside the table with an identifier, no table of a closed schema has it. -/
theorem Schema.Closed.other_id (closed : schema.Closed) {tableId : String}
    {before after : List Table} {table : Table}
    (first : IsFirst (fun known => known.id == tableId) schema.tables before table after)
    {other : Table} (member : other ∈ before ++ after) : other.id ≠ tableId :=
  ((first.mem_around_iff closed.ids).1 member).2

/-- Replacing a table keeps a schema closed, if the new one mentions only tables of the schema and
itself. -/
theorem closed_of_updateTable {table : Table} (closed : schema.Closed)
    (references : (Edit.updateTable table).Admissible schema)
    (accepted : schema.updateTable table = .ok changed) : changed.Closed := by
  obtain ⟨free, before, old, after, first, rfl⟩ := updateTable_eq_ok_iff.1 accepted
  have split := first.split
  have sameId : old.id = table.id := by simpa using first.passes
  have freshName : ∀ other ∈ before ++ after, other.name ≠ table.name := by
    intro other member sameName
    obtain ⟨inSchema, otherId⟩ := (first.mem_around_iff closed.ids).1 member
    exact otherId (Option.some.inj (hasOtherTable_eq_false_iff.1 free other inSchema sameName))
  have ids : ((before ++ table :: after).map Table.id).Nodup := by
    simpa [split, sameId] using closed.ids
  have names : ((before ++ table :: after).map Table.name).Nodup := by
    have others := closed.names
    rw [Schema.tableNames, split] at others
    exact nodup_map_middle.2 ⟨(nodup_map_middle.1 others).1, freshName⟩
  have mentions : ({ schema with tables := before ++ table :: after } : Schema).MentionsIn
      (table.name :: schema.tableNames) :=
    (closed.mentions.mono (List.subset_cons_self _ _)).replace split references
  split
  case isTrue sameName =>
    have sameNames : table.name :: schema.tableNames ⊆
        (before ++ table :: after).map Table.name := by
      have sameName : old.name = table.name := by simpa using sameName
      intro name member
      simp only [Schema.tableNames, split, List.map_append, List.map_cons, List.mem_cons,
        List.mem_append, sameName] at member ⊢
      tauto
    exact ⟨ids, names, mentions.mono sameNames⟩
  case isFalse =>
    have renamed : (table.name :: schema.tableNames).map (Schema.renamed old.name table.name) ⊆
        (before ++ table :: after).map Table.name := by
      intro name member
      obtain ⟨known, inNames, rfl⟩ := List.mem_map.1 member
      unfold Schema.renamed
      split
      · simp
      case isFalse other =>
        have other : known ≠ old.name := by simpa using other
        simp only [Schema.tableNames, split, List.map_append, List.map_cons, List.mem_cons,
          List.mem_append, other, false_or] at inNames ⊢
        tauto
    have mentions := (mentions.renameMentions old.name table.name).mono renamed
    refine ⟨?_, ?_, ?_⟩
    · simpa [Schema.renameMentions, Function.comp_def] using ids
    · simpa [Schema.tableNames, Schema.renameMentions, Function.comp_def] using names
    · simpa [Schema.tableNames, Schema.renameMentions, Function.comp_def] using mentions

/-- What is left of a closed schema without one of its tables: the other tables, without the foreign
keys that mention it, and the relationships that do not. -/
theorem withoutTable_eq {tableId : String} {before after : List Table} {table : Table}
    (closed : schema.Closed)
    (first : IsFirst (fun known => known.id == tableId) schema.tables before table after) :
    schema.withoutTable tableId table.name =
      { schema with
        tables := (before ++ after).map fun other =>
          { other with
            foreignKeys := other.foreignKeys.filter fun key => key.referencedTable != table.name }
        relationships := schema.relationships.filter fun relationship =>
          relationship.sourceTable != table.name && relationship.targetTable != table.name } := by
  have others : (before ++ after).filter (fun other => other.id != tableId) = before ++ after :=
    List.filter_eq_self.2 fun other member => by simpa using closed.other_id first member
  have kept : schema.tables.filter (fun other => other.id != tableId) = before ++ after := by
    have same : table.id = tableId := by simpa using first.passes
    rw [List.filter_append] at others
    rw [first.split, List.filter_append, List.filter_cons_of_neg (by simp [same]), others]
  rw [Schema.withoutTable, kept]

/-- Removing a table keeps a schema closed. -/
theorem closed_of_removeTable {tableId : String} (closed : schema.Closed)
    (accepted : (Edit.removeTable tableId).apply schema = .ok changed) : changed.Closed := by
  obtain ⟨before, table, after, first, same⟩ := removeTable_eq_ok_iff.1 accepted
  rw [withoutTable_eq closed first] at same
  have split := first.split
  have sublist : (before ++ after).Sublist schema.tables := by
    rw [split]
    exact (List.Sublist.refl before).append (List.sublist_cons_self table after)
  have ids : changed.tables.map Table.id = (before ++ after).map Table.id := by
    simp [same, Function.comp_def]
  have names : changed.tableNames = (before ++ after).map Table.name := by
    simp [same, Schema.tableNames, Function.comp_def]
  have remaining {name : String} (known : name ∈ schema.tableNames) (other : name ≠ table.name) :
      name ∈ changed.tableNames := by
    simp only [Schema.tableNames, split, List.map_append, List.map_cons, List.mem_append,
      List.mem_cons, other, false_or] at known
    rw [names, List.map_append]
    exact List.mem_append.2 known
  refine ⟨?_, ?_, fun relationship member => ?_, fun known member key inTable => ?_⟩
  · rw [ids]
    exact (sublist.map Table.id).nodup closed.ids
  · rw [names]
    exact (sublist.map Table.name).nodup closed.names
  · rw [same] at member
    obtain ⟨inSchema, kept⟩ := List.mem_filter.1 member
    simp only [Bool.and_eq_true, bne_iff_ne] at kept
    have ends := closed.mentions.ends relationship inSchema
    exact ⟨remaining ends.1 kept.1, remaining ends.2 kept.2⟩
  · rw [same] at member
    obtain ⟨other, inOthers, rfl⟩ := List.mem_map.1 member
    obtain ⟨inOther, kept⟩ := List.mem_filter.1 inTable
    have inSchema : other ∈ schema.tables := sublist.subset inOthers
    exact remaining (closed.mentions.references other inSchema key inOther) (by simpa using kept)

/-- Every admissible edit that is accepted keeps a schema closed. -/
theorem closed_of_apply {edit : Edit} (closed : schema.Closed) (admissible : edit.Admissible schema)
    (accepted : edit.apply schema = .ok changed) : changed.Closed := by
  have ends := closed.mentions.ends
  cases edit with
  | rename | describe | setDialect =>
      obtain rfl := Except.ok.inj accepted
      exact ⟨closed.ids, closed.names, closed.mentions.ends, closed.mentions.references⟩
  | addTable table => exact closed_of_addTable closed admissible accepted
  | updateTable table => exact closed_of_updateTable closed admissible accepted
  | removeTable tableId => exact closed_of_removeTable closed accepted
  | addColumn tableId column =>
      refine closed_of_modifyTable closed (fun table new result => ?_) accepted
      obtain ⟨-, rfl⟩ := addNewColumn_eq_ok_iff.1 result
      exact ⟨rfl, rfl, rfl⟩
  | updateColumn tableId column =>
      refine closed_of_modifyTable closed (fun table new result => ?_) accepted
      obtain ⟨-, _, _, _, -, rfl⟩ := updateColumn_eq_ok_iff.1 result
      exact ⟨rfl, rfl, rfl⟩
  | removeColumn tableId columnId =>
      refine closed_of_modifyTable closed (fun table new result => ?_) accepted
      obtain ⟨-, rfl⟩ := removeColumn_eq_ok_iff.1 result
      exact ⟨rfl, rfl, rfl⟩
  | addRelationship relationship =>
      obtain rfl := Except.ok.inj accepted
      refine closed_of_relationships closed fun known member => ?_
      rcases List.mem_append.1 member with member | member
      · exact ends known member
      · obtain rfl := List.mem_singleton.1 member
        rw [(normalized_tables relationship).1, (normalized_tables relationship).2]
        exact admissible
  | updateRelationship relationship =>
      refine closed_of_modifyRelationship closed (fun known member => ?_) accepted
      rw [(normalized_tables relationship).1, (normalized_tables relationship).2]
      exact admissible
  | removeRelationship relationshipId =>
      obtain ⟨-, rfl⟩ := removeRelationship_eq_ok_iff.1 accepted
      exact closed_of_relationships closed fun known member =>
        ends known (List.mem_of_mem_filter member)
  | setCardinality relationshipId cardinality =>
      refine closed_of_modifyRelationship closed (fun known member => ?_) accepted
      rw [(normalized_tables _).1, (normalized_tables _).2]
      exact ends known member

end Steps

/-- Edits keep a closed schema closed, one by one and in runs, and removing a table takes with it
exactly the relationships and foreign keys that mention it. -/
theorem edits_keep_closed {schema : Schema} (closed : schema.Closed) :
    (∀ (edit : Edit) (changed : Schema), edit.Admissible schema →
      edit.apply schema = .ok changed → changed.Closed)
      ∧ (∀ last, Edited Edit.Admissible schema last → last.Closed)
      ∧ ∀ (tableId : String) (changed : Schema),
        (Edit.removeTable tableId).apply schema = .ok changed →
          ∃ before table after, schema.tables = before ++ table :: after ∧ table.id = tableId
            ∧ changed = { schema with
              tables := (before ++ after).map fun other =>
                { other with
                  foreignKeys := other.foreignKeys.filter fun key =>
                    key.referencedTable != table.name }
              relationships := schema.relationships.filter fun relationship =>
                relationship.sourceTable != table.name
                  && relationship.targetTable != table.name } := by
  refine ⟨fun edit changed => closed_of_apply closed,
    fun last run => run.keeps closed_of_apply (fun time stays => ?_) closed,
    fun tableId changed accepted => ?_⟩
  · exact ⟨stays.ids, stays.names, stays.mentions.ends, stays.mentions.references⟩
  · obtain ⟨before, table, after, first, rfl⟩ := removeTable_eq_ok_iff.1 accepted
    exact ⟨before, table, after, first.split, by simpa using first.passes,
      withoutTable_eq closed first⟩

/-- A table with one foreign key to itself and one to another table. -/
def threadTable (name self : String) : Table :=
  { Table.empty "2" name with
    foreignKeys := [.between "a" "parent" "parent_id" self "id",
      .between "b" "author" "author_id" "users" "id"] }

/-- Two tables, one of which mentions both. -/
def threadSchema (name : String) : Schema :=
  { Schema.empty "1" "forum" .postgresql default with
    tables := [.empty "3" "users", threadTable name name]
    relationships := [.between "4" ("users", "id") (name, "author_id") .oneToMany] }

/-- Renaming the table that mentions itself keeps the schema closed, also when the new table still
mentions itself by its old name, and so does removing the other one behind it. -/
theorem edits_keep_threadSchema_closed :
    (threadSchema "posts").Closed
      ∧ (Edit.updateTable (threadTable "threads" "posts")).apply (threadSchema "posts") =
        .ok (threadSchema "threads")
      ∧ (threadSchema "threads").Closed
      ∧ ∃ last, Edited Edit.Admissible (threadSchema "posts") last ∧ last.Closed
        ∧ last.relationships = []
        ∧ last.tables = [{ Table.empty "2" "threads" with
          foreignKeys := [.between "a" "parent" "parent_id" "threads" "id"] }] := by
  have closed : (threadSchema "posts").Closed := by
    refine ⟨by decide, by decide, ?_, ?_⟩ <;> decide
  have admissible :
      (Edit.updateTable (threadTable "threads" "posts")).Admissible (threadSchema "posts") := by
    unfold Edit.Admissible
    decide
  have accepted : (Edit.updateTable (threadTable "threads" "posts")).apply (threadSchema "posts") =
      .ok (threadSchema "threads") := rfl
  have removed : (Edit.removeTable "3").apply (threadSchema "threads") =
      .ok ((threadSchema "threads").withoutTable "3" "users") := rfl
  have removable : (Edit.removeTable "3").Admissible (threadSchema "threads") := trivial
  have run := Edited.edit (.edit .start admissible accepted default) removable removed default
  have keeps := edits_keep_closed closed
  exact ⟨closed, accepted, keeps.1 _ _ admissible accepted, _, run, keeps.2.1 _ run, rfl, rfl⟩

end DbSchema
