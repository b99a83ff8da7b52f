import DbSchema.Proofs.Sql.Columns
import DbSchema.Proofs.Workspace.Distinctness

/-!
# Edits of columns

An edit of a column sees the columns of one table only. Indexes, foreign keys and relationships go
on mentioning the old name of a column that is renamed or removed, although an edit of a table takes
care of what mentions the table. So a schema stays closed exactly when nothing mentions the name
that the edit drops, and otherwise its script may use a column that no table has.
-/

namespace DbSchema

/-- The name of the column with an identifier. -/
def Table.columnName? (table : Table) (columnId : String) : Option String :=
  (table.columns.find? fun known => known.id == columnId).map Column.name

namespace Edit

/-- Whether an edit changes the columns of a table. -/
def IsOfColumn : Edit → Prop
  | addColumn .. | updateColumn .. | removeColumn .. => True
  | _ => False

/-- The column name that an edit takes from a table, behind the name of the table: the name of a
column that it removes, or the old name of one that it gives another. -/
def droppedColumn? (schema : Schema) : Edit → Option (String × String)
  | updateColumn tableId column => do
    let table ← schema.tables.find? fun table => table.id == tableId
    ((table.columnName? column.id).filter (· != column.name)).map (table.name, ·)
  | removeColumn tableId columnId => do
    let table ← schema.tables.find? fun table => table.id == tableId
    (table.columnName? columnId).map (table.name, ·)
  | _ => none

/-- Whether nothing mentions the column name that an edit takes from a table. -/
def SparesMentions (schema : Schema) (edit : Edit) : Prop :=
  ∀ dropped ∈ edit.droppedColumn? schema, dropped ∉ schema.columnMentions

end Edit

/-- Whether one schema is the other with the columns of a table replaced. -/
def ReplacesColumns (schema changed : Schema) (table : Table) (columns : List Column) : Prop :=
  ∃ before after, schema.tables = before ++ table :: after
    ∧ changed = { schema with tables := before ++ { table with columns } :: after }

section Replacing

variable {schema changed : Schema} {table : Table} {columns : List Column}
  (replaced : ReplacesColumns schema changed table columns)

include replaced

theorem ReplacesColumns.mem_tables : table ∈ schema.tables := by
  obtain ⟨before, after, split, -⟩ := replaced
  simp [split]

/-- The columns that a schema mentions do not depend on those that its tables have. -/
theorem ReplacesColumns.columnMentions : changed.columnMentions = schema.columnMentions := by
  obtain ⟨before, after, split, rfl⟩ := replaced
  simp only [Schema.columnMentions, split, List.flatMap_append, List.flatMap_cons]
  rfl

/-- The names of tables do not depend on the columns that they have. -/
theorem ReplacesColumns.tableNames :
    changed.tables.map Table.name = schema.tables.map Table.name := by
  obtain ⟨before, after, split, rfl⟩ := replaced
  simp [split]

/-- A column of the schema is still there unless it was one of the table and is not among the new
ones. -/
theorem ReplacesColumns.hasColumn_iff (apart : (schema.tables.map Table.name).Nodup)
    {name column : String} (there : schema.HasColumn name column) :
    changed.HasColumn name column ↔
      (name = table.name → column ∈ columns.map Column.name) := by
  rw [← replaced.tableNames] at apart
  obtain ⟨before, after, split, rfl⟩ := replaced
  by_cases same : name = table.name
  · have kept : { table with columns } ∈ before ++ { table with columns } :: after := by simp
    rw [imp_iff_right same, same]
    exact hasColumn_iff_of_mem apart kept
  · refine iff_of_true ?_ fun impossible => absurd impossible same
    obtain ⟨known, member, rfl, inTable⟩ := there
    refine ⟨known, ?_, rfl, inTable⟩
    rw [split] at member
    rcases List.mem_append.1 member with early | member
    · exact List.mem_append_left _ early
    · rcases List.mem_cons.1 member with rfl | late
      · exact absurd rfl same
      · exact List.mem_append_right _ (.tail _ late)

end Replacing

section Names

variable {table changed : Table} {before after : List Column} {old : Column} {name : String}

/-- With different names for all columns, those around one of them have all names but its own. -/
theorem mem_names_around_iff (names : table.columnNames.Nodup)
    (split : table.columns = before ++ old :: after) (there : name ∈ table.columnNames) :
    name ∈ (before ++ after).map Column.name ↔ name ≠ old.name := by
  rw [Table.columnNames, split] at names there
  have others := (nodup_map_middle.1 names).2
  constructor
  · rintro around rfl
    obtain ⟨known, member, same⟩ := List.mem_map.1 around
    exact others known member same
  · intro other
    rw [List.map_append, List.map_cons] at there
    rw [List.map_append]
    simp only [List.mem_append, List.mem_cons, other, false_or] at there ⊢
    exact there

/-- Replacing a column keeps all names but the old one of the column, if it gets another. -/
theorem mem_names_of_updateColumn {column : Column} (names : table.columnNames.Nodup)
    (accepted : table.updateColumn column = .ok changed) (there : name ∈ table.columnNames) :
    name ∈ changed.columnNames ↔
      name ∉ (table.columnName? column.id).filter (· != column.name) := by
  obtain ⟨-, before, old, after, first, rfl⟩ := updateColumn_eq_ok_iff.1 accepted
  have members : name ∈ (before ++ column :: after).map Column.name ↔
      name = column.name ∨ name ∈ (before ++ after).map Column.name := by
    simp only [List.map_append, List.map_cons, List.mem_append, List.mem_cons]
    exact or_left_comm
  rw [Table.columnNames, members, mem_names_around_iff names first.split there, Table.columnName?,
    first.find?]
  grind

/-- Removing a column keeps all names but its own. -/
theorem mem_names_of_removeColumn {columnId : String} (ids : (table.columns.map Column.id).Nodup)
    (names : table.columnNames.Nodup) (accepted : table.removeColumn columnId = .ok changed)
    (there : name ∈ table.columnNames) :
    name ∈ changed.columnNames ↔ name ∉ table.columnName? columnId := by
  obtain ⟨⟨known, member, same⟩, rfl⟩ := removeColumn_eq_ok_iff.1 accepted
  have isKnown : (table.columns.find? fun known => known.id == columnId).isSome :=
    List.find?_isSome.2 ⟨known, member, by simpa using same⟩
  obtain ⟨old, found⟩ := Option.isSome_iff_exists.1 isKnown
  obtain ⟨before, after, first⟩ := exists_isFirst_of_find? found
  have kept (known : Column) :
      known ∈ (table.columns.filter fun known => known.id != columnId) ↔
        known ∈ before ++ after := by
    rw [first.mem_around_iff ids, List.mem_filter, bne_iff_ne]
  have around := mem_names_around_iff names first.split there
  rw [Table.columnName?, found, Option.map_some, Option.mem_some_iff, eq_comm, ← ne_eq, ← around]
  simp only [Table.columnNames, List.mem_map, kept]

end Names

section Steps

variable {schema changed : Schema} {edit : Edit}

/-- An accepted edit of a column replaces the columns of a table, which keeps all names but the one
that the edit drops. -/
theorem exists_replacesColumns_of_apply (apart : ∀ mark, schema.ApartBy mark)
    (ofColumn : edit.IsOfColumn) (accepted : edit.apply schema = .ok changed) :
    ∃ table columns, ∃ dropped : Option String, ReplacesColumns schema changed table columns
      ∧ edit.droppedColumn? schema = dropped.map (table.name, ·)
      ∧ ∀ name ∈ table.columnNames, name ∈ columns.map Column.name ↔ name ∉ dropped := by
  have columnsApart {before after : List Table} {table : Table}
      (split : schema.tables = before ++ table :: after) (mark : Mark) :
      (table.columns.map mark.ofColumn).Nodup :=
    (apart mark).columns table (by simp [split])
  cases edit with
  | addColumn tableId column =>
      obtain ⟨before, table, after, new, first, result, rfl⟩ := modifyTable_eq_ok_iff.1 accepted
      obtain ⟨-, rfl⟩ := addNewColumn_eq_ok_iff.1 result
      refine ⟨table, table.columns ++ [column], none, ⟨before, after, first.split, rfl⟩, rfl, ?_⟩
      intro name there
      rw [List.map_append]
      exact iff_of_true (List.mem_append_left _ there) (Option.not_mem_none name)
  | updateColumn tableId column =>
      obtain ⟨before, table, after, new, first, result, rfl⟩ := modifyTable_eq_ok_iff.1 accepted
      have kept (name : String) (there : name ∈ table.columnNames) :=
        mem_names_of_updateColumn (columnsApart first.split .name) result there
      obtain ⟨-, early, old, late, -, rfl⟩ := updateColumn_eq_ok_iff.1 result
      refine ⟨table, early ++ column :: late, _, ⟨before, after, first.split, rfl⟩, ?_, kept⟩
      simp only [Edit.droppedColumn?, first.find?, bind, Option.bind]
  | removeColumn tableId columnId =>
      obtain ⟨before, table, after, new, first, result, rfl⟩ := modifyTable_eq_ok_iff.1 accepted
      have kept (name : String) (there : name ∈ table.columnNames) :=
        mem_names_of_removeColumn (columnsApart first.split .id) (columnsApart first.split .name)
          result there
      obtain ⟨-, rfl⟩ := removeColumn_eq_ok_iff.1 result
      refine ⟨table, _, _, ⟨before, after, first.split, rfl⟩, ?_, kept⟩
      simp only [Edit.droppedColumn?, first.find?, bind, Option.bind]
  | _ => exact ofColumn.elim

/-- An accepted edit of a column keeps a schema closed exactly when nothing mentions the name that
it drops. -/
theorem columnClosed_of_apply_iff (apart : ∀ mark, schema.ApartBy mark)
    (closed : schema.ColumnClosed) (ofColumn : edit.IsOfColumn)
    (accepted : edit.apply schema = .ok changed) :
    changed.ColumnClosed ↔ edit.SparesMentions schema := by
  have names : (schema.tables.map Table.name).Nodup := (apart .name).tables
  have there := (columnClosed_iff names).1 closed
  obtain ⟨table, columns, dropped, replaced, isDropped, kept⟩ :=
    exists_replacesColumns_of_apply apart ofColumn accepted
  -- A mentioned column is lost just when it is the dropped one.
  have still (name column : String) (mentioned : (name, column) ∈ schema.columnMentions) :
      changed.HasColumn name column ↔ (name, column) ∉ edit.droppedColumn? schema := by
    rw [replaced.hasColumn_iff names (there _ mentioned), isDropped]
    by_cases same : name = table.name
    · subst same
      have inTable := (hasColumn_iff_of_mem names replaced.mem_tables).1 (there _ mentioned)
      rw [imp_iff_right rfl, kept column inTable]
      simp
    · refine iff_of_true (fun impossible => absurd impossible same) ?_
      simp [Ne.symm same]
  rw [columnClosed_iff (replaced.tableNames ▸ names), replaced.columnMentions]
  constructor
  · rintro all ⟨name, column⟩ isDropped mentioned
    exact (still name column mentioned).1 (all _ mentioned) isDropped
  · rintro spares ⟨name, column⟩ mentioned
    exact (still name column mentioned).2 fun isDropped => spares _ isDropped mentioned

/-- Whether an edit of a column has fresh identifiers and drops no name that something mentions. -/
def Edit.SparesColumns (schema : Schema) (edit : Edit) : Prop :=
  edit.IsOfColumn ∧ edit.KeepsIdsApart schema ∧ edit.SparesMentions schema

/-- A run of edits of columns that drop no name that something mentions keeps a schema closed. -/
theorem columnClosed_of_edited {last : Schema} (apart : ∀ mark, schema.ApartBy mark)
    (closed : schema.ColumnClosed) (run : Edited Edit.SparesColumns schema last) :
    (∀ mark, last.ApartBy mark) ∧ last.ColumnClosed := by
  refine run.keeps (motive := fun schema => (∀ mark, schema.ApartBy mark) ∧ schema.ColumnClosed)
    ?_ ?_ ⟨apart, closed⟩
  · rintro schema edit changed ⟨apart, closed⟩ ⟨ofColumn, keepsIds, spares⟩ accepted
    exact ⟨apartBy_of_edited (.edit .start keepsIds accepted changed.updatedAt) apart,
      (columnClosed_of_apply_iff apart closed ofColumn accepted).2 spares⟩
  · rintro schema time ⟨apart, closed⟩
    exact ⟨fun mark => ⟨(apart mark).tables, (apart mark).columns⟩, closed.indexes, closed.keys,
      closed.ends⟩

end Steps

/-- An accepted edit of a column keeps a schema closed exactly when nothing mentions the name that
it drops, and runs of such edits do. While a schema is closed, its script uses only columns that it
declares. -/
theorem column_edits_keep_closed {schema : Schema} (apart : ∀ mark, schema.ApartBy mark)
    (closed : schema.ColumnClosed) :
    (∀ (edit : Edit) (changed : Schema), edit.IsOfColumn → edit.apply schema = .ok changed →
      (changed.ColumnClosed ↔ edit.SparesMentions schema)
        ∧ (changed.ColumnClosed →
          ∀ options time, (Sql.scriptOf options time changed).ProvidesColumns))
      ∧ ∀ last, Edited Edit.SparesColumns schema last → last.ColumnClosed
        ∧ ∀ options time, (Sql.scriptOf options time last).ProvidesColumns := by
  refine ⟨fun edit changed ofColumn accepted => ⟨?_, fun still options time => ?_⟩,
    fun last run => ?_⟩
  · exact columnClosed_of_apply_iff apart closed ofColumn accepted
  · obtain ⟨table, columns, -, replaced, -⟩ :=
      exists_replacesColumns_of_apply apart ofColumn accepted
    have names : (changed.tables.map Table.name).Nodup := by
      rw [replaced.tableNames]
      exact (apart .name).tables
    exact Sql.providesColumns_scriptOf names still options time
  · obtain ⟨lastApart, still⟩ := columnClosed_of_edited apart closed run
    exact ⟨still, Sql.providesColumns_scriptOf (lastApart .name).tables still⟩

/-- A table of users with the given columns and an index over their emails, and one of posts that
refers to the users. -/
def blogOf (columns : List (String × String)) : Schema :=
  { Schema.empty "0" "blog" .postgresql default with
    tables := [
      { Table.empty "1" "users" with
        columns := columns.map fun (columnId, column) => .ofType columnId column .integer
        indexes := [.onColumns "4" "by_email" ["email"]] },
      { Table.empty "2" "posts" with
        columns := [.ofType "1" "author" .integer]
        foreignKeys := [.between "5" "written_by" "author" "users" "id"] }] }

/-- Renaming a column that nothing mentions keeps the schema closed, and so does removing it
then. -/
theorem column_edits_keep_blog_closed :
    let schema := blogOf [("1", "id"), ("2", "email"), ("3", "age")]
    let renamed := blogOf [("1", "id"), ("2", "email"), ("3", "years")]
    let last := blogOf [("1", "id"), ("2", "email")]
    (∀ mark, schema.ApartBy mark) ∧ schema.ColumnClosed
      ∧ (Edit.updateColumn "1" (.ofType "3" "years" .integer)).apply schema = .ok renamed
      ∧ renamed.ColumnClosed
      ∧ (∀ options time, (Sql.scriptOf options time renamed).ProvidesColumns)
      ∧ Edited Edit.SparesColumns schema last ∧ last.ColumnClosed := by
  intro schema renamed last
  have apart (mark : Mark) : schema.ApartBy mark := by
    cases mark <;> exact ⟨by decide, by decide⟩
  have closed : schema.ColumnClosed := by decide
  let update := Edit.updateColumn "1" (.ofType "3" "years" .integer)
  have renames : update.apply schema = .ok renamed := rfl
  have removes : (Edit.removeColumn "1" "3").apply renamed = .ok last := rfl
  have sparing : update.SparesMentions schema := by
    unfold Edit.SparesMentions
    decide
  have removable : (Edit.removeColumn "1" "3").SparesMentions renamed := by
    unfold Edit.SparesMentions
    decide
  have run : Edited Edit.SparesColumns schema last :=
    .edit (.edit .start ⟨trivial, ⟨trivial, trivial⟩, sparing⟩ renames default)
      ⟨trivial, ⟨trivial, trivial⟩, removable⟩ removes default
  obtain ⟨steps, runs⟩ := column_edits_keep_closed apart closed
  obtain ⟨keeps, provides⟩ := steps update renamed trivial renames
  have still := keeps.2 sparing
  exact ⟨apart, closed, renames, still, provides still, run, (runs last run).1⟩

/-- Renaming the indexed column leaves the index behind, and removing the column that the foreign
key refers to leaves the foreign key. In either dialect the script then uses a column that its table
does not declare. -/
theorem column_edits_leave_mentions_behind :
    let schema := blogOf [("1", "id"), ("2", "email")]
    let renamed := blogOf [("1", "id"), ("2", "mail")]
    let removed := blogOf [("2", "email")]
    (∀ mark, schema.ApartBy mark) ∧ schema.ColumnClosed
      ∧ (Edit.updateColumn "1" (.ofType "2" "mail" .integer)).apply schema = .ok renamed
      ∧ ¬renamed.ColumnClosed
      ∧ (∀ options time, ¬(Sql.scriptOf options time renamed).ProvidesColumns)
      ∧ (Edit.removeColumn "1" "1").apply schema = .ok removed
      ∧ ¬removed.ColumnClosed
      ∧ ∀ options time, ¬(Sql.scriptOf options time removed).ProvidesColumns := by
  intro schema renamed removed
  have lacking (changed : Schema)
      (lacks : ∀ dialect, ¬∀ statement ∈ Sql.statementsOf dialect changed,
        ∀ column ∈ statement.columnUses, Sql.Provided (Sql.statementsOf dialect changed) column)
      (options : Sql.Options) (time : Timestamp) :
      ¬(Sql.scriptOf options time changed).ProvidesColumns := by
    rw [Sql.Script.ProvidesColumns, Sql.statements_scriptOf]
    exact lacks (options.dialectFor changed)
  refine ⟨fun mark => ?_, by decide, rfl, by decide, lacking renamed fun dialect => ?_, rfl,
    by decide, lacking removed fun dialect => ?_⟩
  · cases mark <;> exact ⟨by decide, by decide⟩
  · cases dialect <;> decide
  · cases dialect <;> decide

end DbSchema
