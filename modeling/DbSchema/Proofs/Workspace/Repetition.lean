import DbSchema.Proofs.Workspace.Distinctness
import DbSchema.Proofs.Workspace.Renaming

/-!
# Updates can be repeated

An update that was accepted is accepted again: what it brings has the identifier that it is looked
up by, and its name is free already. Columns and relationships are replaced by what is there then.
A table keeps its name the second time, so that its foreign keys are taken as the update brings
them, whereas those of them that mention the old name were renamed the first time:
`renameReferences_eq_self_iff` says when this makes no difference.
-/

namespace DbSchema

namespace Edit

/-- Whether an edit replaces something by what it brings. -/
def IsUpdate : Edit → Prop
  | updateTable _ | updateColumn .. | updateRelationship _ => True
  | _ => False

/-- Whether an edit renames a table and brings a foreign key that mentions it by its old name. -/
def MentionsOldName (schema : Schema) : Edit → Prop
  | updateTable table =>
    ∃ old ∈ schema.tables.find? fun known => known.id == table.id,
      old.name ≠ table.name ∧ ∃ key ∈ table.foreignKeys, key.referencedTable = old.name
  | _ => False

end Edit

section Repeating

variable {schema changed : Schema}

section Tables

variable {table : Table}

/-- A table is replaced exactly when it exists and no other table has the new name. All mentions of
the old name then follow, which they do as well if it is the new one. -/
theorem updateTable_eq_ok_iff_renamed :
    schema.updateTable table = .ok changed ↔
      schema.hasOtherTable table.name (some table.id) = false
        ∧ ∃ before old after,
          IsFirst (fun known => known.id == table.id) schema.tables before old after
            ∧ changed = ({ schema with tables := before ++ table :: after } :
              Schema).renameMentions old.name table.name := by
  have follows (old : Table) (replaced : Schema) :
      (if old.name == table.name then replaced
        else replaced.renameMentions old.name table.name) =
        replaced.renameMentions old.name table.name := by
    split
    case isTrue same => rw [beq_iff_eq.1 same, renameMentions_self]
    case isFalse => rfl
  simp only [updateTable_eq_ok_iff, follows]

/-- The name of a table that was updated is free for it. -/
theorem hasOtherTable_of_updateTable (accepted : schema.updateTable table = .ok changed) :
    changed.hasOtherTable table.name (some table.id) = false := by
  obtain ⟨free, before, old, after, first, rfl⟩ := updateTable_eq_ok_iff_renamed.1 accepted
  have free := hasOtherTable_eq_false_iff.1 free
  rw [first.split] at free
  refine hasOtherTable_eq_false_iff.2 fun known member same => ?_
  rw [(isFirst_renameMentions first rfl).split] at member
  simp only [List.mem_append, List.mem_cons, List.mem_map] at member
  rcases member with ⟨earlier, inFront, rfl⟩ | rfl | ⟨later, behind, rfl⟩
  · exact free earlier (List.mem_append_left _ inFront) same
  · rfl
  · exact free later (List.mem_append_right _ (.tail _ behind)) same

/-- A table that keeps its name is replaced, and nothing else changes. -/
theorem updateTable_of_sameName {old : Table} {before after : List Table}
    (free : schema.hasOtherTable table.name (some table.id) = false)
    (first : IsFirst (fun known => known.id == table.id) schema.tables before old after)
    (sameName : old.name = table.name) :
    schema.updateTable table = .ok { schema with tables := before ++ table :: after } :=
  updateTable_eq_ok_iff.2 ⟨free, before, old, after, first, by simp [sameName]⟩

/-- An update of a table is accepted again, and from then on changes nothing. The second time it
changes nothing exactly if the table was not brought with mentions of an old name that it had. -/
theorem updateTable_again (accepted : schema.updateTable table = .ok changed) :
    ∃ again, changed.updateTable table = .ok again ∧ again.updateTable table = .ok again
      ∧ (again = changed ↔ ¬(Edit.updateTable table).MentionsOldName schema) := by
  obtain ⟨-, before, old, after, first, renamed⟩ := updateTable_eq_ok_iff_renamed.1 accepted
  obtain ⟨before', after', place⟩ : ∃ before' after',
      IsFirst (fun known => known.id == table.id) changed.tables before'
        (table.renameReferences old.name table.name) after' :=
    ⟨_, _, renamed ▸ isFirst_renameMentions first rfl⟩
  have repeated : changed.updateTable table =
      .ok { changed with tables := before' ++ table :: after' } :=
    updateTable_of_sameName (hasOtherTable_of_updateTable accepted) place rfl
  have there := place.replace (beq_self_eq_true table.id)
  refine ⟨_, repeated,
    updateTable_of_sameName (hasOtherTable_of_updateTable repeated) there rfl, ?_⟩
  have unchanged : { changed with tables := before' ++ table :: after' } = changed ↔
      table.renameReferences old.name table.name = table := by
    constructor
    · intro same
      have tables := (congrArg Schema.tables same).trans place.split
      simpa [eq_comm] using tables
    · intro same
      rw [same] at place
      rw [← place.split]
  rw [unchanged, renameReferences_eq_self_iff]
  simp only [Edit.MentionsOldName, first.find?, Option.mem_some_iff, exists_eq_left', not_and,
    not_exists]
  exact or_iff_not_imp_left

end Tables

/-- A column that was replaced is replaced again. -/
theorem updateColumn_again {table new : Table} {column : Column}
    (accepted : table.updateColumn column = .ok new) : new.updateColumn column = .ok new := by
  obtain ⟨free, before, old, after, first, rfl⟩ := updateColumn_eq_ok_iff.1 accepted
  have free := hasOtherColumn_eq_false_iff.1 free
  rw [first.split] at free
  refine updateColumn_eq_ok_iff.2 ⟨hasOtherColumn_eq_false_iff.2 ?_, before, column, after,
    first.replace (beq_self_eq_true column.id), rfl⟩
  refine (forall_mem_replaced_iff free).2 fun _ => rfl

/-- A change of a table that can be made again is accepted again. -/
theorem modifyTable_again {tableId : String} {change : Table → Except EditError Table}
    (again : ∀ table new, change table = .ok new → new.id = table.id ∧ change new = .ok new)
    (accepted : schema.modifyTable tableId change = .ok changed) :
    changed.modifyTable tableId change = .ok changed := by
  obtain ⟨before, table, after, new, first, result, rfl⟩ := modifyTable_eq_ok_iff.1 accepted
  obtain ⟨sameId, repeated⟩ := again table new result
  have passes : (new.id == tableId) = true := by
    rw [sameId]
    exact first.passes
  exact modifyTable_eq_ok_iff.2 ⟨before, new, after, new, first.replace passes, repeated, rfl⟩

/-- A relationship that was replaced is replaced again. -/
theorem modifyRelationship_again {relationshipId : String} {new : Relationship}
    (named : new.id = relationshipId)
    (accepted : schema.modifyRelationship relationshipId (fun _ => new) = .ok changed) :
    changed.modifyRelationship relationshipId (fun _ => new) = .ok changed := by
  obtain ⟨before, old, after, first, rfl⟩ := modifyRelationship_eq_ok_iff.1 accepted
  have passes : (new.id == relationshipId) = true := beq_iff_eq.2 named
  exact modifyRelationship_eq_ok_iff.2 ⟨before, new, after, first.replace passes, rfl⟩

/-- An update is accepted again, and from then on changes nothing. -/
theorem apply_again {edit : Edit} (update : edit.IsUpdate)
    (accepted : edit.apply schema = .ok changed) :
    ∃ again, edit.apply changed = .ok again ∧ edit.apply again = .ok again
      ∧ (again = changed ↔ ¬edit.MentionsOldName schema) := by
  have unchanged (repeated : edit.apply changed = .ok changed)
      (other : ¬edit.MentionsOldName schema) :
      ∃ again, edit.apply changed = .ok again ∧ edit.apply again = .ok again
        ∧ (again = changed ↔ ¬edit.MentionsOldName schema) :=
    ⟨changed, repeated, repeated, iff_of_true rfl other⟩
  cases edit with
  | updateTable table => exact updateTable_again accepted
  | updateColumn tableId column =>
      refine unchanged (modifyTable_again (fun table new result => ?_) accepted) id
      refine ⟨?_, updateColumn_again result⟩
      obtain ⟨-, _, _, _, -, rfl⟩ := updateColumn_eq_ok_iff.1 result
      rfl
  | updateRelationship relationship =>
      refine unchanged (modifyRelationship_again ?_ accepted) id
      unfold Relationship.normalized
      split <;> rfl
  | _ => exact update.elim

end Repeating

/-- An update that was accepted is accepted a second time, and from then on changes nothing any
more. The second time it leaves the schema as it was exactly unless it renamed a table and brought a
foreign key that mentions the table by its old name. A workspace takes the same way, and has the
time of each update in its schema. -/
theorem updates_can_be_repeated {schema changed : Schema} {edit : Edit} (update : edit.IsUpdate)
    (accepted : edit.apply schema = .ok changed) :
    ∃ again, edit.apply changed = .ok again ∧ edit.apply again = .ok again
      ∧ (again = changed ↔ ¬edit.MentionsOldName schema)
      ∧ ∀ (workspace : Workspace) (loading first second : Timestamp),
        let start := workspace.load loading schema
        let once := (Action.apply edit).outcome first start
        let twice := (Action.apply edit).outcome second once.2
        once = (.ok (), start.load first { changed with updatedAt := first })
          ∧ twice = (.ok (), start.load second { again with updatedAt := second }) := by
  obtain ⟨again, repeated, settled, unchanged⟩ := apply_again update accepted
  refine ⟨again, repeated, settled, unchanged, fun workspace loading first second => ?_⟩
  intro start once twice
  have done : once = (.ok (), start.load first { changed with updatedAt := first }) := by
    refine (outcome_apply first edit (rfl : start.schema? = some schema)).trans ?_
    rw [accepted]
  refine ⟨done, ?_⟩
  have current : once.2.schema? = some { changed with updatedAt := first } := by
    rw [done]
    rfl
  refine (outcome_apply second edit current).trans ?_
  rw [apply_updated, repeated, done]
  rfl

/-- A table that mentions itself is renamed, and brings its mention under the new name or under the
old one. Both lead to the same schema, which the first update leaves when it is repeated, but not
the second. -/
theorem updates_can_be_repeated_in_threadSchema :
    let start := threadSchema "posts"
    let update (self : String) := Edit.updateTable (threadTable "threads" self)
    (∀ self, (update self).IsUpdate)
      ∧ (update "threads").apply start = .ok (threadSchema "threads")
      ∧ ¬(update "threads").MentionsOldName start
      ∧ (update "threads").apply (threadSchema "threads") = .ok (threadSchema "threads")
      ∧ (update "posts").apply start = .ok (threadSchema "threads")
      ∧ (update "posts").MentionsOldName start
      ∧ ∃ again ≠ threadSchema "threads",
        (update "posts").apply (threadSchema "threads") = .ok again
          ∧ (update "posts").apply again = .ok again := by
  intro start update
  have isUpdate (self : String) : (update self).IsUpdate := trivial
  have plain : (update "threads").apply start = .ok (threadSchema "threads") := rfl
  have behind : (update "posts").apply start = .ok (threadSchema "threads") := rfl
  have spared : ¬(update "threads").MentionsOldName start := by
    unfold Edit.MentionsOldName
    decide
  have mentioned : (update "posts").MentionsOldName start := by
    unfold Edit.MentionsOldName
    decide
  obtain ⟨same, repeated, -, unchanged, -⟩ := updates_can_be_repeated (isUpdate "threads") plain
  obtain ⟨again, undone, settled, differs, -⟩ := updates_can_be_repeated (isUpdate "posts") behind
  obtain rfl := unchanged.2 spared
  exact ⟨isUpdate, plain, spared, repeated, behind, mentioned, again,
    fun equal => differs.1 equal mentioned, undone, settled⟩

/-- A foreign key that an update brings under the old name of its table is renamed with the table,
and is put back under the old name when the update is repeated. -/
theorem update_undone_by_repetition :
    let start := threadSchema "posts"
    let update := Edit.updateTable (threadTable "threads" "posts")
    let once := threadSchema "threads"
    let twice := { threadSchema "threads" with
      tables := [.empty "3" "users", threadTable "threads" "posts"] }
    start.ApartBy .id ∧ (start.relationships.map Relationship.id).Nodup
      ∧ update.apply start = .ok once ∧ update.apply once = .ok twice
      ∧ ∀ first second : Timestamp,
        { twice with updatedAt := first } ≠ { once with updatedAt := second } := by
  intro start update once twice
  refine ⟨⟨by decide, by decide⟩, by decide, rfl, rfl, fun first second same => ?_⟩
  have tables := congrArg Schema.tables same
  change twice.tables = once.tables at tables
  exact absurd tables (by decide)

end DbSchema
