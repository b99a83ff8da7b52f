import DbSchema.Proofs.Workspace.Editing

/-!
# Identifiers and names stay apart

The check of a name excepts whatever has the identifier of the edited table or column, and the edit
replaces one of these. Both are the same while identifiers are apart, so that names stay apart as
well: `nodup_tables_of_apply_iff` and `nodup_columns_of_apply_iff` say which edits keep a mark
apart, be it the identifier or the name. That identifiers are apart is nowhere checked: a table that
is added under the identifier of another leaves the names apart, but an edit of it may then give it
the name of the other.
-/

namespace DbSchema

/-- What tables and columns are told apart by. -/
inductive Mark where
  | id
  | name

namespace Mark

/-- The mark of a table. -/
def ofTable : Mark → Table → String
  | id => Table.id
  | name => Table.name

/-- The mark of a column. -/
def ofColumn : Mark → Column → String
  | id => Column.id
  | name => Column.name

/-- Columns and foreign keys are no part of the mark of a table. -/
@[simp] theorem ofTable_with (mark : Mark) (table : Table) (columns : List Column)
    (foreignKeys : List ForeignKey) :
    mark.ofTable { table with columns, foreignKeys } = mark.ofTable table := by
  cases mark <;> rfl

end Mark

/-- Whether tables have different marks, and so have the columns of each. -/
structure Schema.ApartBy (mark : Mark) (schema : Schema) : Prop where
  tables : (schema.tables.map mark.ofTable).Nodup
  columns : ∀ table ∈ schema.tables, (table.columns.map mark.ofColumn).Nodup

namespace Edit

/-- Whether the table that an edit brings has another mark than all tables that it does not
replace. -/
def BringsOtherTable (mark : Mark) (schema : Schema) : Edit → Prop
  | addTable table => ∀ known ∈ schema.tables, mark.ofTable known ≠ mark.ofTable table
  | updateTable table =>
    ∀ known ∈ schema.tables, known.id ≠ table.id → mark.ofTable known ≠ mark.ofTable table
  | _ => True

/-- Whether the columns that an edit brings have other marks than all columns beside them that it
does not replace. -/
def BringsOtherColumns (mark : Mark) (schema : Schema) : Edit → Prop
  | addTable table | updateTable table => (table.columns.map mark.ofColumn).Nodup
  | addColumn tableId column =>
    ∀ table ∈ schema.tables, table.id = tableId →
      ∀ known ∈ table.columns, mark.ofColumn known ≠ mark.ofColumn column
  | updateColumn tableId column =>
    ∀ table ∈ schema.tables, table.id = tableId →
      ∀ known ∈ table.columns, known.id ≠ column.id → mark.ofColumn known ≠ mark.ofColumn column
  | _ => True

/-- Whether the columns of a table that an edit brings differ in identifier and in name. -/
def CarriesApartColumns : Edit → Prop
  | addTable table | updateTable table => ∀ mark : Mark, (table.columns.map mark.ofColumn).Nodup
  | _ => True

/-- Whether a table or a column that an edit adds has an identifier that none has before it. -/
def AddsFreshId (schema : Schema) : Edit → Prop
  | addTable table => ∀ known ∈ schema.tables, known.id ≠ table.id
  | addColumn tableId column =>
    ∀ table ∈ schema.tables, table.id = tableId → ∀ known ∈ table.columns, known.id ≠ column.id
  | _ => True

end Edit

section Marks

variable {schema changed : Schema} {mark : Mark} {edit : Edit}

/-- A change of a table that keeps its mark keeps the marks of all tables. -/
theorem marks_of_modifyTable {tableId : String} {change : Table → Except EditError Table}
    (keeps : ∀ table new, change table = .ok new → mark.ofTable new = mark.ofTable table)
    (accepted : schema.modifyTable tableId change = .ok changed) :
    changed.tables.map mark.ofTable = schema.tables.map mark.ofTable := by
  obtain ⟨before, table, after, new, first, result, rfl⟩ := modifyTable_eq_ok_iff.1 accepted
  simp [first.split, keeps table new result]

/-- What an accepted edit makes of the marks of the tables. -/
theorem marks_of_apply (mark : Mark) (accepted : edit.apply schema = .ok changed) :
    match edit with
    | .addTable table =>
      changed.tables.map mark.ofTable = (schema.tables ++ [table]).map mark.ofTable
    | .updateTable table =>
      ∃ before old after,
        IsFirst (fun known => known.id == table.id) schema.tables before old after
          ∧ changed.tables.map mark.ofTable = (before ++ table :: after).map mark.ofTable
    | .removeTable tableId =>
      changed.tables.map mark.ofTable =
        (schema.tables.filter fun table => table.id != tableId).map mark.ofTable
    | _ => changed.tables.map mark.ofTable = schema.tables.map mark.ofTable := by
  cases edit with
  | rename | describe | setDialect | addRelationship =>
      obtain rfl := Except.ok.inj accepted
      rfl
  | addTable table =>
      obtain ⟨-, rfl⟩ := addTable_eq_ok_iff.1 accepted
      rfl
  | updateTable table =>
      obtain ⟨-, before, old, after, first, rfl⟩ := updateTable_eq_ok_iff.1 accepted
      refine ⟨before, old, after, first, ?_⟩
      split
      · rfl
      · simp [Schema.renameMentions, Function.comp_def]
  | removeTable tableId =>
      obtain ⟨_, table, _, -, rfl⟩ := removeTable_eq_ok_iff.1 accepted
      simp [Schema.withoutTable, Function.comp_def]
  | addColumn tableId column =>
      refine marks_of_modifyTable (fun table new result => ?_) accepted
      obtain ⟨-, rfl⟩ := addNewColumn_eq_ok_iff.1 result
      exact mark.ofTable_with table _ table.foreignKeys
  | updateColumn tableId column =>
      refine marks_of_modifyTable (fun table new result => ?_) accepted
      obtain ⟨-, _, _, _, -, rfl⟩ := updateColumn_eq_ok_iff.1 result
      exact mark.ofTable_with table _ table.foreignKeys
  | removeColumn tableId columnId =>
      refine marks_of_modifyTable (fun table new result => ?_) accepted
      obtain ⟨-, rfl⟩ := removeColumn_eq_ok_iff.1 result
      exact mark.ofTable_with table _ table.foreignKeys
  | updateRelationship | setCardinality =>
      obtain ⟨_, _, _, -, rfl⟩ := modifyRelationship_eq_ok_iff.1 accepted
      rfl
  | removeRelationship relationshipId =>
      obtain ⟨-, rfl⟩ := removeRelationship_eq_ok_iff.1 accepted
      rfl

/-- While identifiers are apart, an accepted edit keeps the tables apart by a mark exactly when the
table that it brings has another one than the rest. -/
theorem nodup_tables_of_apply_iff (mark : Mark) (ids : (schema.tables.map Table.id).Nodup)
    (apart : (schema.tables.map mark.ofTable).Nodup)
    (accepted : edit.apply schema = .ok changed) :
    (changed.tables.map mark.ofTable).Nodup ↔ edit.BringsOtherTable mark schema := by
  have marks := marks_of_apply mark accepted
  cases edit with
  | addTable table =>
      dsimp only at marks
      rw [marks, nodup_map_middle, List.append_nil]
      exact and_iff_right apart
  | updateTable table =>
      -- Only where identifiers are apart are the tables around the replaced one all that have
      -- another identifier.
      obtain ⟨before, old, after, first, marks⟩ := marks
      have others := (nodup_map_middle.1 (first.split ▸ apart)).1
      rw [marks, nodup_map_middle]
      simp only [others, true_and, first.mem_around_iff ids, and_imp, Edit.BringsOtherTable]
  | removeTable tableId =>
      dsimp only at marks
      rw [marks]
      exact iff_of_true ((List.filter_sublist.map _).nodup apart) trivial
  | _ =>
      dsimp only at marks
      rw [marks]
      exact iff_of_true apart trivial

end Marks

section Columns

variable {schema changed : Schema} {mark : Mark} {edit : Edit}

/-- While identifiers are apart, a change of a table keeps the columns of each table apart by a mark
exactly when it does so for the table that it changes; `fits` says when. -/
theorem nodup_columns_of_modifyTable_iff {tableId : String}
    {change : Table → Except EditError Table} {fits : Table → Prop}
    (ids : (schema.tables.map Table.id).Nodup)
    (apart : ∀ table ∈ schema.tables, (table.columns.map mark.ofColumn).Nodup)
    (keeps : ∀ table ∈ schema.tables, ∀ new, change table = .ok new →
      ((new.columns.map mark.ofColumn).Nodup ↔ fits table))
    (accepted : schema.modifyTable tableId change = .ok changed) :
    (∀ table ∈ changed.tables, (table.columns.map mark.ofColumn).Nodup) ↔
      ∀ table ∈ schema.tables, table.id = tableId → fits table := by
  obtain ⟨before, table, after, new, first, result, rfl⟩ := modifyTable_eq_ok_iff.1 accepted
  have inSchema : table ∈ schema.tables := by simp [first.split]
  have named : table.id = tableId := by simpa using first.passes
  rw [forall_mem_replaced_iff (first.split ▸ apart), keeps table inSchema new result]
  constructor
  · intro holds known member same
    rwa [first.eq_of_key ids member same]
  · exact fun holds => holds table inSchema named

/-- While identifiers are apart, an accepted edit keeps the columns of each table apart by a mark
exactly when those that it brings have other ones than the rest. -/
theorem nodup_columns_of_apply_iff (ids : schema.ApartBy .id)
    (apart : ∀ table ∈ schema.tables, (table.columns.map mark.ofColumn).Nodup)
    (accepted : edit.apply schema = .ok changed) :
    (∀ table ∈ changed.tables, (table.columns.map mark.ofColumn).Nodup) ↔
      edit.BringsOtherColumns mark schema := by
  cases edit with
  | rename | describe | setDialect | addRelationship =>
      obtain rfl := Except.ok.inj accepted
      exact iff_of_true apart trivial
  | addTable table =>
      obtain ⟨-, rfl⟩ := addTable_eq_ok_iff.1 accepted
      simp only [Schema.addTable, List.forall_mem_append, List.forall_mem_singleton]
      exact and_iff_right apart
  | updateTable table =>
      obtain ⟨-, before, old, after, first, rfl⟩ := updateTable_eq_ok_iff.1 accepted
      split
      · exact forall_mem_replaced_iff (first.split ▸ apart)
      · simp only [Schema.renameMentions, List.forall_mem_map]
        exact forall_mem_replaced_iff (first.split ▸ apart)
  | removeTable tableId =>
      obtain ⟨_, table, _, -, rfl⟩ := removeTable_eq_ok_iff.1 accepted
      refine iff_of_true (fun known member => ?_) trivial
      obtain ⟨other, kept, rfl⟩ := List.mem_map.1 member
      exact apart other (List.mem_of_mem_filter kept)
  | addColumn tableId column =>
      refine nodup_columns_of_modifyTable_iff ids.tables apart (fun table member new result => ?_)
        accepted
      obtain ⟨-, rfl⟩ := addNewColumn_eq_ok_iff.1 result
      rw [Table.addColumn, nodup_map_middle, List.append_nil]
      exact and_iff_right (apart table member)
  | updateColumn tableId column =>
      refine nodup_columns_of_modifyTable_iff ids.tables apart (fun table member new result => ?_)
        accepted
      obtain ⟨-, before, old, after, first, rfl⟩ := updateColumn_eq_ok_iff.1 result
      have others := (nodup_map_middle.1 (first.split ▸ apart table member)).1
      rw [nodup_map_middle]
      simp only [others, true_and, first.mem_around_iff (ids.columns table member), and_imp]
  | removeColumn tableId columnId =>
      have always (table : Table) (member : table ∈ schema.tables) (new : Table)
          (result : table.removeColumn columnId = .ok new) :
          (new.columns.map mark.ofColumn).Nodup ↔ True := by
        obtain ⟨-, rfl⟩ := removeColumn_eq_ok_iff.1 result
        exact iff_of_true ((List.filter_sublist.map _).nodup (apart table member)) trivial
      have removed := nodup_columns_of_modifyTable_iff ids.tables apart always accepted
      exact removed.trans (iff_of_true (fun _ _ _ => trivial) trivial)
  | updateRelationship | setCardinality =>
      obtain ⟨_, _, _, -, rfl⟩ := modifyRelationship_eq_ok_iff.1 accepted
      exact iff_of_true apart trivial
  | removeRelationship relationshipId =>
      obtain ⟨-, rfl⟩ := removeRelationship_eq_ok_iff.1 accepted
      exact iff_of_true apart trivial

end Columns

section Steps

variable {schema changed : Schema} {mark : Mark} {edit : Edit}

/-- While identifiers are apart, an accepted edit keeps tables and columns apart by a mark exactly
when what it brings has another one than the rest. -/
theorem apartBy_of_apply_iff (ids : schema.ApartBy .id) (apart : schema.ApartBy mark)
    (accepted : edit.apply schema = .ok changed) :
    changed.ApartBy mark ↔
      edit.BringsOtherTable mark schema ∧ edit.BringsOtherColumns mark schema := by
  rw [← nodup_tables_of_apply_iff mark ids.tables apart.tables accepted,
    ← nodup_columns_of_apply_iff ids apart.columns accepted]
  exact ⟨fun apart => ⟨apart.tables, apart.columns⟩, fun ⟨tables, columns⟩ => ⟨tables, columns⟩⟩

/-- The table that an accepted edit brings has another name than the rest. -/
theorem bringsOtherTable_name_of_apply (accepted : edit.apply schema = .ok changed) :
    edit.BringsOtherTable .name schema := by
  cases edit with
  | addTable table => exact (addTable_eq_ok_iff.1 accepted).1
  | updateTable table =>
      have free := hasOtherTable_eq_false_iff.1 (updateTable_eq_ok_iff.1 accepted).1
      exact fun known member other same => other (Option.some.inj (free known member same))
  | _ => trivial

/-- While identifiers are apart, the columns that an accepted edit brings have other names than the
rest. -/
theorem bringsOtherColumns_name_of_apply (ids : schema.ApartBy .id)
    (carried : edit.CarriesApartColumns) (accepted : edit.apply schema = .ok changed) :
    edit.BringsOtherColumns .name schema := by
  cases edit with
  | addTable table | updateTable table => exact carried .name
  | addColumn tableId column =>
      obtain ⟨_, _, _, _, first, result, -⟩ := modifyTable_eq_ok_iff.1 accepted
      intro table member same
      obtain rfl := first.eq_of_key ids.tables member same
      exact (addNewColumn_eq_ok_iff.1 result).1
  | updateColumn tableId column =>
      obtain ⟨_, _, _, _, first, result, -⟩ := modifyTable_eq_ok_iff.1 accepted
      intro table member same known inTable other sameName
      obtain rfl := first.eq_of_key ids.tables member same
      have free := hasOtherColumn_eq_false_iff.1 (updateColumn_eq_ok_iff.1 result).1
      exact other (free known inTable sameName)
  | _ => trivial

/-- What an edit brings has another identifier than the rest exactly when what it adds has. -/
theorem brings_ids_iff (carried : edit.CarriesApartColumns) :
    edit.BringsOtherTable .id schema ∧ edit.BringsOtherColumns .id schema ↔
      edit.AddsFreshId schema := by
  cases edit with
  | addTable table => exact and_iff_left (carried .id)
  | updateTable table => exact iff_of_true ⟨fun _ _ other => other, carried .id⟩ trivial
  | addColumn tableId column => exact and_iff_right trivial
  | updateColumn tableId column =>
      exact iff_of_true ⟨trivial, fun _ _ _ _ _ other => other⟩ trivial
  | _ => exact iff_of_true ⟨trivial, trivial⟩ trivial

/-- An accepted edit keeps names apart, whatever the identifiers of what it brings. -/
theorem names_apart_of_apply (ids : schema.ApartBy .id) (names : schema.ApartBy .name)
    (carried : edit.CarriesApartColumns) (accepted : edit.apply schema = .ok changed) :
    changed.ApartBy .name :=
  (apartBy_of_apply_iff ids names accepted).2
    ⟨bringsOtherTable_name_of_apply accepted, bringsOtherColumns_name_of_apply ids carried accepted⟩

/-- An accepted edit keeps identifiers apart exactly when what it adds has a fresh one. -/
theorem ids_apart_of_apply_iff (ids : schema.ApartBy .id) (carried : edit.CarriesApartColumns)
    (accepted : edit.apply schema = .ok changed) :
    changed.ApartBy .id ↔ edit.AddsFreshId schema :=
  (apartBy_of_apply_iff ids ids accepted).trans (brings_ids_iff carried)

end Steps

/-- Whether the columns that an edit brings differ, and what it adds has a fresh identifier. -/
def Edit.KeepsIdsApart (schema : Schema) (edit : Edit) : Prop :=
  edit.CarriesApartColumns ∧ edit.AddsFreshId schema

/-- A run of edits that keep identifiers apart keeps names apart with them. -/
theorem apartBy_of_edited {first last : Schema} (run : Edited Edit.KeepsIdsApart first last)
    (apart : ∀ mark, first.ApartBy mark) (mark : Mark) : last.ApartBy mark := by
  -- A step keeps names apart by the identifiers, so the run carries both.
  have both : last.ApartBy .id ∧ last.ApartBy .name := by
    refine run.keeps (motive := fun schema => schema.ApartBy .id ∧ schema.ApartBy .name) ?_ ?_
      ⟨apart .id, apart .name⟩
    · rintro schema edit changed ⟨ids, names⟩ ⟨carried, fresh⟩ accepted
      exact ⟨(ids_apart_of_apply_iff ids carried accepted).2 fresh,
        names_apart_of_apply ids names carried accepted⟩
    · rintro schema time ⟨ids, names⟩
      exact ⟨⟨ids.tables, ids.columns⟩, names.tables, names.columns⟩
  cases mark with
  | id => exact both.1
  | name => exact both.2

/-- Where tables, and the columns of each, differ in identifier and in name, every accepted edit
keeps the names apart, and it keeps the identifiers apart exactly when what it adds has a fresh one.
So runs of edits whose additions have fresh identifiers keep both apart. -/
theorem names_stay_apart {schema : Schema} (apart : ∀ mark, schema.ApartBy mark) :
    (∀ (edit : Edit) (changed : Schema), edit.CarriesApartColumns →
      edit.apply schema = .ok changed →
        changed.ApartBy .name ∧ (changed.ApartBy .id ↔ edit.AddsFreshId schema))
      ∧ ∀ last, Edited Edit.KeepsIdsApart schema last → ∀ mark, last.ApartBy mark :=
  ⟨fun _ _ carried accepted =>
      ⟨names_apart_of_apply (apart .id) (apart .name) carried accepted,
        ids_apart_of_apply_iff (apart .id) carried accepted⟩,
    fun _ run => apartBy_of_edited run apart⟩

/-- A schema with one table for each pair of an identifier and a name, and columns given in the same
way in all of them. -/
def listing (tables columns : List (String × String)) : Schema :=
  { Schema.empty "0" "s" .postgresql default with
    tables := tables.map fun (tableId, table) =>
      { Table.empty tableId table with
        columns := columns.map fun (columnId, column) => .ofType columnId column .integer } }

/-- Renaming the second of two tables, after a column was added to it, keeps all apart; adding a
table under the identifier of the first keeps the names apart and only them. -/
theorem names_stay_apart_in_listing :
    let schema := listing [("1", "a"), ("2", "b")] []
    let column := Column.ofType "3" "x" .integer
    let renamed := { Table.empty "2" "c" with columns := [column] }
    let last := { schema with tables := [.empty "1" "a", renamed] }
    (∀ mark, schema.ApartBy mark) ∧ Edited Edit.KeepsIdsApart schema last
      ∧ (∀ mark, last.ApartBy mark)
      ∧ ((Edit.addTable (.empty "1" "d")).apply schema =
        .ok (listing [("1", "a"), ("2", "b"), ("1", "d")] []))
      ∧ (listing [("1", "a"), ("2", "b"), ("1", "d")] []).ApartBy .name
      ∧ ¬(listing [("1", "a"), ("2", "b"), ("1", "d")] []).ApartBy .id := by
  intro schema column renamed last
  have apart (mark : Mark) : schema.ApartBy mark := by
    cases mark <;> exact ⟨by decide, by decide⟩
  have widened : (Edit.addColumn "2" column).apply schema =
      .ok { schema with
        tables := [.empty "1" "a", .addColumn (.empty "2" "b") column] } := rfl
  have replaced : (Edit.updateTable renamed).apply
      { schema with tables := [.empty "1" "a", .addColumn (.empty "2" "b") column] } =
      .ok last := rfl
  have run : Edited Edit.KeepsIdsApart schema last := by
    refine .edit (.edit .start ⟨trivial, ?_⟩ widened default) ⟨?_, trivial⟩ replaced default
    · unfold Edit.AddsFreshId
      decide
    · intro mark
      cases mark <;> decide
  have carried : (Edit.addTable (.empty "1" "d")).CarriesApartColumns := fun _ => List.nodup_nil
  obtain ⟨step, runs⟩ := names_stay_apart apart
  obtain ⟨names, ids⟩ := step _ _ carried rfl
  refine ⟨apart, run, runs last run, rfl, names, fun same => ?_⟩
  exact ids.1 same (.empty "1" "a") (.head _) rfl

/-- A table that is added under the identifier of another may be given the name of the other: the
edit replaces the first of them, and its check excepts both. So it is with columns. -/
theorem names_meet_under_one_id :
    let first := listing [("1", "a")] [("2", "x")]
    let tables := listing [("1", "b"), ("1", "b")] [("2", "x")]
    let columns := listing [("1", "a")] [("2", "y"), ("2", "y")]
    (∀ mark, first.ApartBy mark)
      ∧ Edited (fun _ edit => edit.CarriesApartColumns) first tables ∧ ¬tables.ApartBy .name
      ∧ Edited (fun _ edit => edit.CarriesApartColumns) first columns ∧ ¬columns.ApartBy .name := by
  intro first tables columns
  let table := { Table.empty "1" "b" with columns := [.ofType "2" "x" .integer] }
  let column := Column.ofType "2" "y" .integer
  have carried (mark : Mark) : (table.columns.map mark.ofColumn).Nodup := by
    cases mark <;> decide
  have added : (Edit.addTable table).apply first =
      .ok (listing [("1", "a"), ("1", "b")] [("2", "x")]) := rfl
  have replaced : (Edit.updateTable table).apply
      (listing [("1", "a"), ("1", "b")] [("2", "x")]) = .ok tables := rfl
  have widened : (Edit.addColumn "1" column).apply first =
      .ok (listing [("1", "a")] [("2", "x"), ("2", "y")]) := rfl
  have rewritten : (Edit.updateColumn "1" column).apply
      (listing [("1", "a")] [("2", "x"), ("2", "y")]) = .ok columns := rfl
  refine ⟨fun mark => ?_, .edit (.edit .start carried added default) carried replaced default, ?_,
    .edit (.edit .start trivial widened default) trivial rewritten default, ?_⟩
  · cases mark <;> exact ⟨by decide, by decide⟩
  · exact fun apart => absurd apart.tables (by decide)
  · exact fun apart => absurd (apart.columns _ (.head _)) (by decide)

end DbSchema
