import DbSchema.Proofs.Workspace.Renaming

/-!
# Additions can be undone

What was added at the end of a list is removed by its identifier, together with everything else that
has it. So a removal takes back an addition exactly when the identifier was new. The removal of a
table also drops what mentions the name of the table, which is nothing: its name was free, and where
all mentions are of tables that there are, a free name is not mentioned.
-/

namespace DbSchema

namespace Edit

/-- The edit that removes what an edit adds, by the identifier that it brings. -/
def removal? : Edit → Option Edit
  | addTable table => some (removeTable table.id)
  | addColumn tableId column => some (removeColumn tableId column.id)
  | addRelationship relationship => some (removeRelationship relationship.id)
  | _ => none

/-- Whether nothing beside what an edit adds has its identifier: no table of the schema, no column
of the table that is edited, or no relationship. -/
def BringsNewId (schema : Schema) : Edit → Prop
  | addTable table => ∀ known ∈ schema.tables, known.id ≠ table.id
  | addColumn tableId column =>
    ∀ table ∈ schema.tables.find? fun table => table.id == tableId,
      ∀ known ∈ table.columns, known.id ≠ column.id
  | addRelationship relationship => ∀ known ∈ schema.relationships, known.id ≠ relationship.id
  | _ => True

end Edit

/-- Removing by a key what was added at the end of a list leaves the list exactly when the key was
new. -/
theorem filter_added_eq_iff {α : Type} {key : α → String} {list : List α} {new : α}
    {wanted : String} (named : key new = wanted) :
    (list ++ [new]).filter (fun known => key known != wanted) = list ↔
      ∀ known ∈ list, key known ≠ wanted := by
  rw [List.filter_append, List.filter_cons_of_neg (by simp [named]), List.filter_nil,
    List.append_nil, List.filter_eq_self]
  simp only [bne_iff_ne]

section Undoing

variable {schema changed : Schema}

section Tables

variable {table : Table}

/-- Without a name that nothing mentions, the tables and relationships are the same. -/
theorem withoutTable_of_not_mentions {tableId name : String} (unmentioned : ¬schema.Mentions name) :
    schema.withoutTable tableId name =
      { schema with tables := schema.tables.filter fun table => table.id != tableId } := by
  simp only [Schema.Mentions, not_or, not_exists, not_and] at unmentioned
  obtain ⟨ends, references⟩ := unmentioned
  have keeps : ∀ known ∈ schema.tables.filter (fun table => table.id != tableId),
      { known with
        foreignKeys := known.foreignKeys.filter fun key => key.referencedTable != name } =
          known := by
    intro known member
    have all : known.foreignKeys.filter (fun key => key.referencedTable != name) =
        known.foreignKeys :=
      List.filter_eq_self.2 fun key inTable => by
        simpa using references known (List.mem_of_mem_filter member) key inTable
    rw [all]
  have relationships : schema.relationships.filter (fun relationship =>
      relationship.sourceTable != name && relationship.targetTable != name) =
      schema.relationships :=
    List.filter_eq_self.2 fun relationship member => by simpa using ends relationship member
  rw [Schema.withoutTable, List.map_congr_left keeps, List.map_id', relationships]

/-- Removing a table leaves a table with the same identifier out, whether it was added or not. -/
theorem withoutTable_addTable (name : String) :
    (schema.addTable table).withoutTable table.id name = schema.withoutTable table.id name := by
  have dropped : (schema.tables ++ [table]).filter (fun known => known.id != table.id) =
      schema.tables.filter fun known => known.id != table.id := by
    rw [List.filter_append, List.filter_cons_of_neg (by simp), List.filter_nil, List.append_nil]
  rw [Schema.withoutTable, Schema.withoutTable, Schema.addTable, dropped]

/-- Where all mentions are of tables that there are, removing a table takes back its addition
exactly when no other table has its identifier. -/
theorem removeTable_addTable_iff (mentions : schema.MentionsIn schema.tableNames)
    (accepted : (Edit.addTable table).apply schema = .ok changed) :
    (Edit.removeTable table.id).apply changed = .ok schema ↔
      ∀ known ∈ schema.tables, known.id ≠ table.id := by
  obtain ⟨free, rfl⟩ := addTable_eq_ok_iff.1 accepted
  constructor
  · intro restored known member
    obtain ⟨_, found, _, -, same⟩ := removeTable_eq_ok_iff.1 restored
    rw [withoutTable_addTable] at same
    have tables : schema.tables = (schema.withoutTable table.id found.name).tables :=
      congrArg Schema.tables same
    rw [tables] at member
    obtain ⟨other, kept, rfl⟩ := List.mem_map.1 member
    simpa using (List.mem_filter.1 kept).2
  · intro new
    have freeName : table.name ∉ schema.tableNames := by
      simpa [Schema.tableNames] using free
    have last : IsFirst (fun known => known.id == table.id) (schema.tables ++ [table])
        schema.tables table [] :=
      ⟨rfl, by simpa using new, beq_self_eq_true table.id⟩
    have others : schema.tables.filter (fun known => known.id != table.id) = schema.tables :=
      List.filter_eq_self.2 (by simpa using new)
    refine removeTable_eq_ok_iff.2 ⟨schema.tables, table, [], last, ?_⟩
    rw [withoutTable_addTable, withoutTable_of_not_mentions (mentions.not_mentions freeName),
      others]

end Tables

/-- Removing a column takes back its addition exactly when no other column of the table has its
identifier. -/
theorem removeColumn_addColumn_iff {tableId : String} {column : Column}
    (accepted : (Edit.addColumn tableId column).apply schema = .ok changed) :
    (Edit.removeColumn tableId column.id).apply changed = .ok schema ↔
      (Edit.addColumn tableId column).BringsNewId schema := by
  obtain ⟨before, table, after, new, first, result, rfl⟩ := modifyTable_eq_ok_iff.1 accepted
  obtain ⟨-, rfl⟩ := addNewColumn_eq_ok_iff.1 result
  have there : IsFirst (fun known => known.id == tableId)
      (before ++ table.addColumn column :: after) before (table.addColumn column) after :=
    first.replace first.passes
  let kept := (table.columns ++ [column]).filter fun known => known.id != column.id
  have removed : (table.addColumn column).removeColumn column.id =
      .ok { table with columns := kept } :=
    removeColumn_eq_ok_iff.2 ⟨⟨column, by simp [Table.addColumn], rfl⟩, rfl⟩
  have leaves : (Edit.removeColumn tableId column.id).apply
      { schema with tables := before ++ table.addColumn column :: after } =
      .ok { schema with tables := before ++ { table with columns := kept } :: after } :=
    modifyTable_eq_ok_iff.2 ⟨before, _, after, _, there, removed, rfl⟩
  have restores : { schema with tables := before ++ { table with columns := kept } :: after } =
      schema ↔ kept = table.columns := by
    constructor
    · intro same
      have tables := (congrArg Schema.tables same).trans first.split
      exact congrArg Table.columns (List.cons.inj (List.append_cancel_left tables)).1
    · intro same
      rw [same, ← first.split]
  rw [leaves, Except.ok.injEq, restores, filter_added_eq_iff rfl]
  simp only [Edit.BringsNewId, first.find?, Option.mem_some_iff, forall_eq']

/-- Removing a relationship takes back its addition exactly when no other relationship has its
identifier. -/
theorem removeRelationship_addRelationship_iff {relationship : Relationship}
    (accepted : (Edit.addRelationship relationship).apply schema = .ok changed) :
    (Edit.removeRelationship relationship.id).apply changed = .ok schema ↔
      ∀ known ∈ schema.relationships, known.id ≠ relationship.id := by
  obtain rfl := Except.ok.inj accepted
  have named : relationship.normalized.id = relationship.id := by
    unfold Relationship.normalized
    split <;> rfl
  let kept := (schema.relationships ++ [relationship.normalized]).filter
    fun known => known.id != relationship.id
  have leaves : (Edit.removeRelationship relationship.id).apply
      (schema.addRelationship relationship.normalized) =
      .ok { schema with relationships := kept } :=
    removeRelationship_eq_ok_iff.2
      ⟨⟨relationship.normalized, by simp [Schema.addRelationship], named⟩, rfl⟩
  have restores : { schema with relationships := kept } = schema ↔ kept = schema.relationships :=
    ⟨fun same => congrArg Schema.relationships same, fun same => by rw [same]⟩
  rw [leaves, Except.ok.injEq, restores, filter_added_eq_iff named]

end Undoing

/-- Where all mentions of tables are of tables that there are, removing what was just added leaves
the schema that there was before, with everything in its place, exactly when it was added under an
identifier that was new. A workspace takes the same way, and has the time of the removal in its
schema. -/
theorem additions_can_be_undone {schema changed : Schema} {addition removal : Edit}
    (mentions : schema.MentionsIn schema.tableNames) (undoes : addition.removal? = some removal)
    (accepted : addition.apply schema = .ok changed) :
    (removal.apply changed = .ok schema ↔ addition.BringsNewId schema)
      ∧ (addition.BringsNewId schema →
        ∀ (workspace : Workspace) (loading first second : Timestamp),
          let start := workspace.load loading schema
          let once := (Action.apply addition).outcome first start
          once.1 = .ok ()
            ∧ (Action.apply removal).outcome second once.2 =
              (.ok (), start.load second { schema with updatedAt := second })) := by
  have restores : removal.apply changed = .ok schema ↔ addition.BringsNewId schema := by
    cases addition with
    | addTable table =>
        obtain rfl := Option.some.inj undoes
        exact removeTable_addTable_iff mentions accepted
    | addColumn tableId column =>
        obtain rfl := Option.some.inj undoes
        exact removeColumn_addColumn_iff accepted
    | addRelationship relationship =>
        obtain rfl := Option.some.inj undoes
        exact removeRelationship_addRelationship_iff accepted
    | _ => simp [Edit.removal?] at undoes
  refine ⟨restores, fun new workspace loading first second => ?_⟩
  intro start once
  have done : once = (.ok (), start.load first { changed with updatedAt := first }) := by
    refine (outcome_apply first addition (rfl : start.schema? = some schema)).trans ?_
    rw [accepted]
  have current : once.2.schema? = some { changed with updatedAt := first } := by
    rw [done]
    rfl
  refine ⟨by rw [done], (outcome_apply second removal current).trans ?_⟩
  rw [apply_updated, restores.2 new, done]
  rfl

/-- A table that mentions itself and another one is removed without a trace when it was added under
a new identifier. A relationship that was added under the identifier of another one takes that one
with it. -/
theorem additions_can_be_undone_in_threadSchema :
    let schema := threadSchema "posts"
    let tags := { Table.empty "5" "tags" with
      foreignKeys := [.between "c" "broader" "broader_id" "tags" "id",
        .between "d" "author" "author_id" "users" "id"] }
    let tagging := Edit.addTable tags
    let moderating :=
      Edit.addRelationship (.between "4" ("users", "id") ("posts", "id") .manyToMany)
    let start := (Workspace.empty .standard).load default schema
    schema.MentionsIn schema.tableNames
      ∧ tagging.apply schema = .ok (schema.addTable tags) ∧ tagging.BringsNewId schema
      ∧ (Edit.removeTable "5").apply (schema.addTable tags) = .ok schema
      ∧ (Action.apply (.removeTable "5")).outcome default
        ((Action.apply tagging).outcome default start).2 = (.ok (), start)
      ∧ ¬moderating.BringsNewId schema
      ∧ ∃ changed, moderating.apply schema = .ok changed
        ∧ (Edit.removeRelationship "4").apply changed ≠ .ok schema := by
  intro schema tags tagging moderating start
  have mentions : schema.MentionsIn schema.tableNames := by
    constructor <;> decide
  have tagged : tagging.apply schema = .ok (schema.addTable tags) := rfl
  have new : tagging.BringsNewId schema := by
    unfold Edit.BringsNewId
    decide
  have known : ¬moderating.BringsNewId schema := by
    unfold Edit.BringsNewId
    decide
  obtain ⟨untagged, inWorkspace⟩ := additions_can_be_undone mentions
    (rfl : tagging.removal? = some (.removeTable "5")) tagged
  obtain ⟨restored, -⟩ := additions_can_be_undone mentions
    (rfl : moderating.removal? = some (.removeRelationship "4")) rfl
  exact ⟨mentions, tagged, new, untagged.2 new,
    (inWorkspace new (.empty .standard) default default default).2, known, _, rfl,
    fun same => known (restored.1 same)⟩

end DbSchema
