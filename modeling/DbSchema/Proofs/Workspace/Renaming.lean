import DbSchema.Proofs.Workspace.Closure
import DbSchema.Proofs.Workspace.Junctions
import DbSchema.Proofs.Workspace.Reopening

/-!
# Renaming a table can be undone

In a closed schema, a table may take any name that no table has. The new name is then mentioned
nowhere but where the old one was, because a closed schema mentions only names that it has; so what
mentioned the table can be told from the rest by name, and renaming the table back rewrites exactly
these mentions. The identifiers, not the names, tell which table is replaced.
-/

namespace DbSchema

namespace Schema

/-- Whether a relationship or a foreign key mentions a table by the given name. -/
def Mentions (schema : Schema) (name : String) : Prop :=
  (∃ relationship ∈ schema.relationships,
    relationship.sourceTable = name ∨ relationship.targetTable = name)
    ∨ ∃ table ∈ schema.tables, ∃ key ∈ table.foreignKeys, key.referencedTable = name

instance (schema : Schema) (name : String) : Decidable (schema.Mentions name) :=
  inferInstanceAs (Decidable (_ ∨ _))

/-- A name that is among none of those that a schema mentions is not mentioned. -/
theorem MentionsIn.not_mentions {schema : Schema} {names : List String}
    (mentions : schema.MentionsIn names) {name : String} (other : name ∉ names) :
    ¬schema.Mentions name := by
  rintro (⟨relationship, inSchema, rfl | rfl⟩ | ⟨table, inSchema, key, inTable, rfl⟩)
  · exact other (mentions.ends relationship inSchema).1
  · exact other (mentions.ends relationship inSchema).2
  · exact other (mentions.references table inSchema key inTable)

/-- Nothing has the old name when it is renamed. -/
theorem renamed_ne {old new : String} (other : old ≠ new) (name : String) :
    renamed old new name ≠ old := by
  unfold renamed
  split
  case isTrue => exact other.symm
  case isFalse kept => simpa using kept

/-- Another name than the old one is left alone. -/
theorem renamed_of_ne {old new name : String} (other : name ≠ old) :
    renamed old new name = name := by
  simp [renamed, other]

/-- A name is left alone when it is renamed to itself. -/
theorem renamed_self (name known : String) : renamed name name known = known := by
  by_cases same : known = name
  · simp [renamed, same]
  · exact renamed_of_ne same

/-- A name that was not the new one before is renamed back to itself. -/
theorem renamed_renamed {old new name : String} (other : name ≠ new) :
    renamed new old (renamed old new name) = name := by
  by_cases same : name = old
  · simp [renamed, same]
  · rw [renamed_of_ne same, renamed_of_ne other]

end Schema

/-- The table with every mention of a table name in its foreign keys changed. -/
def Table.renameReferences (table : Table) (old new : String) : Table :=
  { table with
    foreignKeys := table.foreignKeys.map fun key =>
      { key with referencedTable := Schema.renamed old new key.referencedTable } }

/-- The relationship with every mention of a table name at its ends changed. -/
def Relationship.renameEnds (relationship : Relationship) (old new : String) : Relationship :=
  { relationship with
    sourceTable := Schema.renamed old new relationship.sourceTable
    targetTable := Schema.renamed old new relationship.targetTable }

section Mentions

variable {old new : String}

/-- A renaming is a renaming of the ends of relationships and of the references of tables. -/
theorem renameMentions_eq (schema : Schema) :
    schema.renameMentions old new =
      { schema with
        relationships := schema.relationships.map (·.renameEnds old new)
        tables := schema.tables.map (·.renameReferences old new) } := rfl

/-- A renaming of a name to itself changes nothing. -/
theorem renameMentions_self (schema : Schema) (name : String) :
    schema.renameMentions name name = schema := by
  simp [Schema.renameMentions, Schema.renamed_self]

/-- Foreign keys that do not mention the old name are left alone. -/
theorem renameReferences_of_ne {table : Table}
    (other : ∀ key ∈ table.foreignKeys, key.referencedTable ≠ old) :
    table.renameReferences old new = table := by
  have keys : (table.foreignKeys.map fun key =>
      { key with referencedTable := Schema.renamed old new key.referencedTable }) =
      table.foreignKeys := by
    refine (List.map_congr_left fun key member => ?_).trans (List.map_id _)
    rw [Schema.renamed_of_ne (other key member), id]
  rw [Table.renameReferences, keys]

/-- What a table mentions stays as it is exactly when a name is renamed to itself, or the table does
not mention it. -/
theorem renameReferences_eq_self_iff {table : Table} :
    table.renameReferences old new = table ↔
      old = new ∨ ∀ key ∈ table.foreignKeys, key.referencedTable ≠ old := by
  constructor
  · intro same
    by_cases sameName : old = new
    · exact .inl sameName
    · refine .inr fun key member mentions => ?_
      have keys : table.foreignKeys.map (fun key =>
          { key with referencedTable := Schema.renamed old new key.referencedTable }) =
          table.foreignKeys.map id := by
        rw [List.map_id]
        exact congrArg Table.foreignKeys same
      have kept : Schema.renamed old new key.referencedTable = key.referencedTable :=
        congrArg ForeignKey.referencedTable (List.map_inj_left.1 keys key member)
      exact Schema.renamed_ne sameName key.referencedTable (kept.trans mentions)
  · rintro (rfl | other)
    · simp [Table.renameReferences, Schema.renamed_self]
    · exact renameReferences_of_ne other

/-- Foreign keys that do not mention the new name are renamed back to what they were. -/
theorem renameReferences_renameReferences {table : Table}
    (other : ∀ key ∈ table.foreignKeys, key.referencedTable ≠ new) :
    (table.renameReferences old new).renameReferences new old = table := by
  have keys : ((table.renameReferences old new).foreignKeys.map fun key =>
      { key with referencedTable := Schema.renamed new old key.referencedTable }) =
      table.foreignKeys := by
    rw [Table.renameReferences, List.map_map]
    refine (List.map_congr_left fun key member => ?_).trans (List.map_id _)
    rw [Function.comp_apply, Schema.renamed_renamed (other key member), id]
  rw [Table.renameReferences, keys, Table.renameReferences]

/-- Tables whose foreign keys do not mention the new name are renamed back to what they were. -/
theorem map_renameReferences_back {tables : List Table}
    (other : ∀ table ∈ tables, ∀ key ∈ table.foreignKeys, key.referencedTable ≠ new) :
    (tables.map (·.renameReferences old new)).map (·.renameReferences new old) = tables := by
  rw [List.map_map]
  refine (List.map_congr_left fun table member => ?_).trans (List.map_id _)
  exact renameReferences_renameReferences (other table member)

/-- Relationships between tables of other names are renamed back to what they were. -/
theorem map_renameEnds_back {relationships : List Relationship}
    (other : ∀ relationship ∈ relationships,
      relationship.sourceTable ≠ new ∧ relationship.targetTable ≠ new) :
    (relationships.map (·.renameEnds old new)).map (·.renameEnds new old) = relationships := by
  rw [List.map_map]
  refine (List.map_congr_left fun relationship member => ?_).trans (List.map_id _)
  obtain ⟨source, target⟩ := other relationship member
  simp only [Function.comp_apply, Relationship.renameEnds, Schema.renamed_renamed source,
    Schema.renamed_renamed target, id]

/-- Behind a renaming, the table that was put in place of another is the first with its
identifier, as the other was. -/
theorem isFirst_renameMentions {schema : Schema} {before after : List Table} {known table : Table}
    {tableId : String} (first : IsFirst (fun known => known.id == tableId) schema.tables before
      known after)
    (sameId : table.id = tableId) :
    IsFirst (fun known => known.id == tableId)
      (({ schema with tables := before ++ table :: after } : Schema).renameMentions old new).tables
      (before.map (·.renameReferences old new)) (table.renameReferences old new)
      (after.map (·.renameReferences old new)) := by
  refine ⟨by simp [renameMentions_eq], fun known member => ?_, beq_iff_eq.2 sameId⟩
  obtain ⟨earlier, inFront, rfl⟩ := List.mem_map.1 member
  exact first.earlier earlier inFront

end Mentions

section Renamings

variable {schema : Schema} {before after : List Table} {table : Table} {name : String}

/-- The schema with a table under another name, which all mentions of the table follow. -/
def Schema.withRenamed (schema : Schema) (before after : List Table) (table : Table)
    (name : String) : Schema :=
  ({ schema with tables := before ++ { table with name } :: after } : Schema).renameMentions
    table.name name

/-- The tables behind a renaming. -/
theorem tables_withRenamed :
    (schema.withRenamed before after table name).tables =
      before.map (·.renameReferences table.name name)
        ++ ({ table with name } : Table).renameReferences table.name name
          :: after.map (·.renameReferences table.name name) := by
  simp [Schema.withRenamed, renameMentions_eq]

variable (closed : schema.Closed)
  (first : IsFirst (fun known => known.id == table.id) schema.tables before table after)
  (free : name ∉ schema.tableNames)

include free in
/-- A closed schema does not mention a name that no table has. -/
theorem unmentioned_of_free (mentions : schema.MentionsIn schema.tableNames) :
    (∀ relationship ∈ schema.relationships,
      relationship.sourceTable ≠ name ∧ relationship.targetTable ≠ name)
      ∧ ∀ known ∈ schema.tables, ∀ key ∈ known.foreignKeys, key.referencedTable ≠ name := by
  refine ⟨fun relationship member => ?_, fun known member key inTable same => ?_⟩
  · have ends := mentions.ends relationship member
    exact ⟨fun same => free (same ▸ ends.1), fun same => free (same ▸ ends.2)⟩
  · exact free (same ▸ mentions.references known member key inTable)

include first

/-- The table is found by its identifier behind the renaming. -/
theorem isFirst_withRenamed :
    IsFirst (fun known => known.id == table.id) (schema.withRenamed before after table name).tables
      (before.map (·.renameReferences table.name name))
      (({ table with name } : Table).renameReferences table.name name)
      (after.map (·.renameReferences table.name name)) := by
  exact isFirst_renameMentions first rfl

/-- The old name is free behind the renaming. -/
theorem hasOtherTable_withRenamed (apart : schema.tableNames.Nodup) :
    (schema.withRenamed before after table name).hasOtherTable table.name (some table.id) =
      false := by
  rw [Schema.tableNames, first.split] at apart
  have others := (nodup_map_middle.1 apart).2
  refine hasOtherTable_eq_false_iff.2 fun known member same => ?_
  rw [tables_withRenamed] at member
  simp only [List.mem_append, List.mem_cons, List.mem_map] at member
  rcases member with ⟨earlier, inFront, rfl⟩ | rfl | ⟨later, behind, rfl⟩
  · exact absurd same (others earlier (List.mem_append_left _ inFront))
  · rfl
  · exact absurd same (others later (List.mem_append_right _ behind))

include free

/-- A name that no table has is not the name of the table. -/
theorem name_ne_of_free : table.name ≠ name := by
  rintro rfl
  exact free (List.mem_map_of_mem (by simp [first.split]))

/-- A table may take any name that no table has. -/
theorem updateTable_withRenamed :
    schema.updateTable { table with name } = .ok (schema.withRenamed before after table name) := by
  have unused : schema.hasOtherTable name (some table.id) = false :=
    hasOtherTable_eq_false_iff.2 fun known member same =>
      absurd (List.mem_map_of_mem member) (same ▸ free)
  have place : IsFirst (fun known => known.id == ({ table with name } : Table).id) schema.tables
      before table after := first
  refine updateTable_eq_ok_iff.2 ⟨unused, before, table, after, place, ?_⟩
  rw [if_neg (by simpa using name_ne_of_free first free)]
  rfl

include closed

/-- Behind a renaming, the old name is not mentioned. -/
theorem not_mentions_withRenamed :
    ¬(schema.withRenamed before after table name).Mentions table.name := by
  have references : ∀ key ∈ ({ table with name } : Table).foreignKeys,
      key.referencedTable ∈ schema.tableNames :=
    closed.mentions.references table (by simp [first.split])
  have mentions := (closed.mentions.replace first.split references).renameMentions table.name name
  refine mentions.not_mentions fun member => ?_
  obtain ⟨known, -, same⟩ := List.mem_map.1 member
  exact Schema.renamed_ne (name_ne_of_free first free) known same

/-- With the table as it was, and all mentions renamed back, a schema is what it was before the
renaming. -/
theorem renameMentions_withRenamed :
    ({ schema.withRenamed before after table name with
        tables := before.map (·.renameReferences table.name name)
          ++ table :: after.map (·.renameReferences table.name name) } : Schema).renameMentions
      name table.name = schema := by
  obtain ⟨ends, references⟩ := unmentioned_of_free free closed.mentions
  have split := first.split
  rw [split] at references
  simp only [List.forall_mem_append, List.forall_mem_cons] at references
  obtain ⟨inFront, here, behind⟩ := references
  have tables : (before.map (·.renameReferences table.name name)
      ++ table :: after.map (·.renameReferences table.name name)).map
        (·.renameReferences name table.name) = schema.tables := by
    rw [List.map_append, List.map_cons, map_renameReferences_back inFront,
      map_renameReferences_back behind, renameReferences_of_ne here, split]
  have relationships : (schema.withRenamed before after table name).relationships.map
      (·.renameEnds name table.name) = schema.relationships :=
    map_renameEnds_back ends
  rw [renameMentions_eq]
  dsimp only
  rw [tables, relationships]
  rfl

/-- The edit that renames the table back restores what the schema was, whenever it was updated. -/
theorem updateTable_renamed_back (time : Timestamp) :
    ({ schema.withRenamed before after table name with updatedAt := time } : Schema).updateTable
        table =
      .ok { schema with updatedAt := time } := by
  refine updateTable_eq_ok_iff.2 ⟨hasOtherTable_withRenamed first closed.names, _, _, _,
    isFirst_withRenamed first, ?_⟩
  have other : (({ table with name } : Table).renameReferences table.name name).name ≠ table.name :=
    (name_ne_of_free first free).symm
  rw [if_neg (by simpa using other)]
  exact congrArg (fun restored : Schema => { restored with updatedAt := time })
    (renameMentions_withRenamed closed first free).symm

end Renamings

/-- In a closed schema, a table may take any name that no table has. Nothing mentions its old name
then, and changing it back to what it was restores the schema. A workspace in which both is done has
the schema from before, but for the time of its last update, and the same texts, if these have no
time in them. -/
theorem renaming_can_be_undone {schema : Schema} (closed : schema.Closed) {table : Table}
    (member : table ∈ schema.tables) {name : String} (free : name ∉ schema.tableNames) :
    ∃ renamed, (Edit.updateTable { table with name }).apply schema = .ok renamed
      ∧ ¬renamed.Mentions table.name
      ∧ (Edit.updateTable table).apply renamed = .ok schema
      ∧ ∀ (workspace : Workspace) (loading going returning : Timestamp),
        let start := workspace.load loading schema
        let away := (Action.apply (.updateTable { table with name })).outcome going start
        let back := (Action.apply (.updateTable table)).outcome returning away.2
        away = (.ok (), start.load going { renamed with updatedAt := going })
          ∧ back = (.ok (), start.load returning { schema with updatedAt := returning })
          ∧ back.2.outputs?.map Outputs.diagram = start.outputs?.map Outputs.diagram
          ∧ (workspace.options.timestamp = false → back.2.outputs? = start.outputs?) := by
  obtain ⟨before, after, first⟩ := exists_isFirst_of_mem closed.ids member
  have goes := updateTable_withRenamed first free
  have returns := updateTable_renamed_back closed first free
  refine ⟨schema.withRenamed before after table name, goes,
    not_mentions_withRenamed closed first free, returns schema.updatedAt, ?_⟩
  intro workspace loading going returning start away back
  have accepted : (Edit.updateTable { table with name }).apply schema =
      .ok (schema.withRenamed before after table name) := goes
  have there : away = (.ok (), start.load going
      { schema.withRenamed before after table name with updatedAt := going }) := by
    refine (outcome_apply going _ (rfl : start.schema? = some schema)).trans ?_
    rw [accepted]
  have undone : (Edit.updateTable table).apply
      { schema.withRenamed before after table name with updatedAt := going } =
        .ok { schema with updatedAt := going } := returns going
  have restored : back =
      (.ok (), start.load returning { schema with updatedAt := returning }) := by
    have current : away.2.schema? =
        some { schema.withRenamed before after table name with updatedAt := going } := by
      rw [there]
      rfl
    refine (outcome_apply returning _ current).trans ?_
    rw [undone, there]
    rfl
  have diagram : Diagram.compile { schema with updatedAt := returning } = Diagram.compile schema :=
    rfl
  refine ⟨there, restored, ?_, fun untimed => ?_⟩
  · rw [restored]
    exact congrArg some diagram
  · have same := compile_untimed untimed returning loading schema
    rw [restored]
    exact congrArg (fun sql => some (Outputs.mk sql (Diagram.compile schema))) same

/-- Two tables, one of which mentions itself, are restored when its name is changed and changed
back, and so are the texts of a workspace that does not tell the time. -/
theorem renaming_can_be_undone_in_threadSchema :
    let start := (Workspace.empty ⟨false, none⟩).load default (threadSchema "posts")
    let rename (self : String) := Action.apply (.updateTable (threadTable self "posts"))
    (threadSchema "posts").Closed ∧ threadTable "posts" "posts" ∈ (threadSchema "posts").tables
      ∧ "threads" ∉ (threadSchema "posts").tableNames
      ∧ (Edit.updateTable (threadTable "threads" "posts")).apply (threadSchema "posts") =
        .ok (threadSchema "threads")
      ∧ ¬(threadSchema "threads").Mentions "posts"
      ∧ (Edit.updateTable (threadTable "posts" "posts")).apply (threadSchema "threads") =
        .ok (threadSchema "posts")
      ∧ ∀ going returning,
        ((rename "posts").outcome returning ((rename "threads").outcome going start).2).2.outputs? =
          start.outputs? := by
  intro start rename
  have closed : (threadSchema "posts").Closed := by
    refine ⟨by decide, by decide, ?_, ?_⟩ <;> decide
  have member : threadTable "posts" "posts" ∈ (threadSchema "posts").tables := by decide
  have free : "threads" ∉ (threadSchema "posts").tableNames := by decide
  obtain ⟨renamed, goes, unmentioned, returns, texts⟩ :=
    renaming_can_be_undone closed member free
  obtain rfl : renamed = threadSchema "threads" := Except.ok.inj (goes.symm.trans rfl)
  refine ⟨closed, member, free, goes, unmentioned, returns, fun going returning => ?_⟩
  exact (texts (.empty ⟨false, none⟩) default going returning).2.2.2 rfl

end DbSchema
