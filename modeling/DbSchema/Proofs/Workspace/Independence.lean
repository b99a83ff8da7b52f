import DbSchema.Proofs.Workspace.Junctions
import Mathlib.Logic.Function.Conjugate

/-!
# Independent edits

Edits of the columns of one table and edits that have nothing to do with these columns can be made
in any order. An edit overlooks a change of schemas when it ends alike with and without it and
carries the change along. What an edit of columns changes is one table, found by its identifier;
what the other edits change is another table or no table at all. So each of two independent edits
overlooks what the other one changes, whether they are accepted or refused.
-/

namespace DbSchema

/-- The list with its first element that satisfies the test replaced, if there is one. -/
def replaceFirst {α : Type} (test : α → Bool) (new : α) (list : List α) : List α :=
  (modifyFirst? test (fun _ => new) list).getD list

/-- The schema with the first table that has an identifier replaced, if there is one. -/
def Schema.withTable (tableId : String) (new : Table) (schema : Schema) : Schema :=
  { schema with tables := replaceFirst (fun table => table.id == tableId) new schema.tables }

namespace Edit

/-- The identifier of the table whose columns an edit is about. -/
def tableOfColumns? : Edit → Option String
  | addColumn tableId _ | updateColumn tableId _ | removeColumn tableId _ => some tableId
  | _ => none

/-- Whether an edit is about a relationship, or about what a schema has beside its contents. -/
def SparesTables : Edit → Prop
  | rename _ | describe _ | setDialect _ => True
  | addRelationship _ | updateRelationship _ | removeRelationship _ | setCardinality _ _ => True
  | _ => False

/-- Whether an edit is not about tables, or about the columns of another table. -/
def IsIndependentOf (tableId : String) (edit : Edit) : Prop :=
  edit.SparesTables ∨ ∃ otherId ≠ tableId, edit.tableOfColumns? = some otherId

/-- Whether an edit ends alike with and without a change of schemas, and carries the change
along. -/
def Overlooks (edit : Edit) (change : Schema → Schema) : Prop :=
  ∀ schema, edit.apply (change schema) = (edit.apply schema).map change

/-- The schema behind an edit, which is the same as before when the edit is refused. -/
def attempt (edit : Edit) (schema : Schema) : Schema :=
  match edit.apply schema with
  | .ok changed => changed
  | .error _ => schema

/-- How an edit of a workspace with a schema ends. -/
def verdict (edit : Edit) (schema : Schema) : Except WorkspaceError Unit :=
  match edit.apply schema with
  | .ok _ => .ok ()
  | .error error => .error (.edit error)

end Edit

/-- The changes of a schema that replace at most the first table with an identifier. -/
inductive IsOfTable (tableId : String) : (Schema → Schema) → Prop where
  | nothing : IsOfTable tableId id
  | table (new : Table) (named : new.id = tableId) : IsOfTable tableId (.withTable tableId new)

section Replacing

variable {α : Type} {test other : α → Bool} {new newOther : α}

theorem replaceFirst_cons (element : α) (rest : List α) :
    replaceFirst test new (element :: rest) =
      if test element then new :: rest else element :: replaceFirst test new rest := by
  unfold replaceFirst
  rw [modifyFirst?]
  split
  · rfl
  · cases modifyFirst? test (fun _ => new) rest <;> rfl

/-- What satisfies another test is found where it was, when it is not replaced and nothing that
satisfies the other test takes the place of what is. -/
theorem find?_replaceFirst (apart : ∀ element, test element = true → other element = false)
    (passes : test new = true) (list : List α) :
    (replaceFirst test new list).find? other = list.find? other := by
  induction list with
  | nil => rfl
  | cons element rest inductionHypothesis =>
      rw [replaceFirst_cons]
      split
      case isTrue here =>
        rw [List.find?_cons_of_neg (by simp [apart new passes]),
          List.find?_cons_of_neg (by simp [apart element here])]
      case isFalse =>
        rw [List.find?_cons, List.find?_cons, inductionHypothesis]

/-- Elements that satisfy different tests can be replaced in any order. -/
theorem replaceFirst_comm (apart : ∀ element, test element = true → other element = false)
    (passes : test new = true) (passesOther : other newOther = true) (list : List α) :
    replaceFirst test new (replaceFirst other newOther list) =
      replaceFirst other newOther (replaceFirst test new list) := by
  have fails : test newOther = false := by
    by_contra both
    simp [apart newOther (by simpa using both)] at passesOther
  induction list with
  | nil => rfl
  | cons element rest inductionHypothesis =>
      cases here : test element with
      | true => simp [replaceFirst_cons, here, apart element here, apart new passes]
      | false =>
          cases there : other element with
          | true => simp [replaceFirst_cons, here, there, fails]
          | false => simp [replaceFirst_cons, here, there, inductionHypothesis]

end Replacing

section Tables

variable {tableId otherId : String} {new newOther : Table}

/-- No table has two identifiers. -/
theorem id_beq_false (different : otherId ≠ tableId) (table : Table)
    (same : (table.id == tableId) = true) : (table.id == otherId) = false := by
  rw [beq_iff_eq.1 same]
  exact beq_false_of_ne different.symm

/-- The table with another identifier is found as before. -/
theorem find?_withTable (different : otherId ≠ tableId) (named : new.id = tableId)
    (schema : Schema) :
    (schema.withTable tableId new).tables.find? (fun table => table.id == otherId) =
      schema.tables.find? fun table => table.id == otherId :=
  find?_replaceFirst (id_beq_false different) (beq_iff_eq.2 named) schema.tables

/-- Tables with different identifiers can be replaced in any order. -/
theorem withTable_comm (different : otherId ≠ tableId) (named : new.id = tableId)
    (namedOther : newOther.id = otherId) :
    Function.Commute (Schema.withTable tableId new) (Schema.withTable otherId newOther) := by
  intro schema
  have tables := replaceFirst_comm (id_beq_false different) (beq_iff_eq.2 named)
    (beq_iff_eq.2 namedOther) schema.tables
  exact congrArg (fun tables => { schema with tables }) tables

/-- A change of a table is a change of the first one with its identifier. -/
theorem modifyTable_eq (schema : Schema) (change : Table → Except EditError Table) :
    schema.modifyTable tableId change =
      match schema.tables.find? fun table => table.id == tableId with
      | none => .error (.notFound .table tableId)
      | some table => (change table).map fun new => schema.withTable tableId new := by
  unfold Schema.modifyTable
  cases schema.tables.find? fun table => table.id == tableId with
  | none => rfl
  | some table =>
      cases change table <;> rfl

/-- An edit of columns is a change of a table that keeps its identifier. -/
theorem exists_modifyTable {edit : Edit} (ofColumns : edit.tableOfColumns? = some tableId) :
    ∃ change : Table → Except EditError Table,
      (∀ schema, edit.apply schema = schema.modifyTable tableId change)
        ∧ ∀ table new, change table = .ok new → new.id = table.id := by
  cases edit with
  | addColumn known column =>
      obtain rfl := Option.some.inj ofColumns
      refine ⟨fun table => table.addNewColumn column, fun schema => rfl, fun table new result => ?_⟩
      obtain ⟨-, rfl⟩ := addNewColumn_eq_ok_iff.1 result
      rfl
  | updateColumn known column =>
      obtain rfl := Option.some.inj ofColumns
      refine ⟨fun table => table.updateColumn column, fun schema => rfl, fun table new result => ?_⟩
      obtain ⟨-, _, _, _, -, rfl⟩ := updateColumn_eq_ok_iff.1 result
      rfl
  | removeColumn known columnId =>
      obtain rfl := Option.some.inj ofColumns
      refine ⟨fun table => table.removeColumn columnId, fun schema => rfl,
        fun table new result => ?_⟩
      obtain ⟨-, rfl⟩ := removeColumn_eq_ok_iff.1 result
      rfl
  | _ => simp [Edit.tableOfColumns?] at ofColumns

end Tables

section Footprints

variable {edit other : Edit} {schema changed : Schema} {tableId otherId : String}
  {change changeOther : Schema → Schema}

/-- Every edit overlooks that nothing changes. -/
theorem overlooks_id (edit : Edit) : edit.Overlooks id := by
  intro schema
  cases result : edit.apply schema <;> simp [result, Except.map]

/-- Every edit overlooks the time of the last update. -/
theorem overlooks_updatedAt (edit : Edit) (time : Timestamp) :
    edit.Overlooks fun schema => { schema with updatedAt := time } :=
  fun schema => apply_updated schema time edit

/-- What an edit overlooks makes no difference to how it ends. -/
theorem Edit.Overlooks.verdict (overlooks : edit.Overlooks change) (schema : Schema) :
    edit.verdict (change schema) = edit.verdict schema := by
  unfold Edit.verdict
  rw [overlooks]
  cases edit.apply schema <;> rfl

/-- What an edit overlooks is there behind it as well. -/
theorem Edit.Overlooks.attempt (overlooks : edit.Overlooks change) (schema : Schema) :
    edit.attempt (change schema) = change (edit.attempt schema) := by
  unfold Edit.attempt
  rw [overlooks]
  cases edit.apply schema <;> rfl

/-- What an edit of columns changes is at most the first table with its identifier. -/
theorem exists_isOfTable (ofColumns : edit.tableOfColumns? = some tableId) (schema : Schema) :
    ∃ change, IsOfTable tableId change ∧ edit.attempt schema = change schema := by
  obtain ⟨change, same, keepsId⟩ := exists_modifyTable ofColumns
  unfold Edit.attempt
  rw [same, modifyTable_eq]
  cases found : schema.tables.find? fun table => table.id == tableId with
  | none => exact ⟨id, .nothing, rfl⟩
  | some table =>
      dsimp only
      cases result : change table with
      | error error => exact ⟨id, .nothing, rfl⟩
      | ok new =>
          have named : table.id = tableId := by simpa using List.find?_some found
          exact ⟨_, .table new ((keepsId table new result).trans named), rfl⟩

/-- Changes of tables with different identifiers can be made in any order. -/
theorem IsOfTable.comm (ofTable : IsOfTable tableId change)
    (ofOther : IsOfTable otherId changeOther) (different : otherId ≠ tableId) :
    Function.Commute change changeOther := by
  cases ofTable with
  | nothing => exact Function.Commute.id_left
  | table new named =>
      cases ofOther with
      | nothing => exact Function.Commute.id_right
      | table newOther namedOther => exact withTable_comm different named namedOther

/-- An edit of columns overlooks a change of another table. -/
theorem IsOfTable.overlooks (ofTable : IsOfTable tableId change)
    (ofColumns : edit.tableOfColumns? = some otherId) (different : otherId ≠ tableId) :
    edit.Overlooks change := by
  cases ofTable with
  | nothing => exact overlooks_id edit
  | table new named =>
      intro schema
      obtain ⟨change, same, keepsId⟩ := exists_modifyTable ofColumns
      rw [same, same, modifyTable_eq, modifyTable_eq, find?_withTable different named]
      cases found : schema.tables.find? fun table => table.id == otherId with
      | none => rfl
      | some table =>
          dsimp only
          cases result : change table with
          | error error => rfl
          | ok newOther =>
              have namedTable : table.id = otherId := by simpa using List.find?_some found
              have namedOther := (keepsId table newOther result).trans namedTable
              exact congrArg Except.ok (withTable_comm different named namedOther schema).symm

/-- An edit of columns overlooks everything but the tables. -/
theorem overlooks_elsewhere (ofColumns : edit.tableOfColumns? = some tableId) (elsewhere : Schema) :
    edit.Overlooks fun schema => { elsewhere with tables := schema.tables } := by
  intro schema
  obtain ⟨change, same, -⟩ := exists_modifyTable ofColumns
  rw [same, same, modifyTable_eq, modifyTable_eq]
  dsimp only
  cases schema.tables.find? fun table => table.id == tableId with
  | none => rfl
  | some table =>
      dsimp only
      cases change table <;> rfl

/-- An edit that spares tables makes no difference to what tables there are. -/
theorem apply_withTables (spares : edit.SparesTables) (schema : Schema) (tables : List Table) :
    edit.apply { schema with tables } =
      (edit.apply schema).map fun changed => { changed with tables } := by
  cases edit with
  | rename | describe | setDialect | addRelationship => rfl
  | removeRelationship relationshipId =>
      simp only [Edit.apply]
      split <;> rfl
  | updateRelationship | setCardinality =>
      simp only [Edit.apply, Schema.modifyRelationship]
      split <;> rfl
  | addTable | updateTable | removeTable | addColumn | updateColumn | removeColumn =>
      exact spares.elim

/-- An edit that spares tables leaves them as they are. -/
theorem tables_of_sparesTables (spares : edit.SparesTables)
    (accepted : edit.apply schema = .ok changed) : changed.tables = schema.tables := by
  have same : changed = { changed with tables := schema.tables } := by
    have kept := apply_withTables spares schema schema.tables
    rw [accepted] at kept
    exact Except.ok.inj kept
  have tables := congrArg Schema.tables same
  exact tables

/-- What an edit changes that spares tables is everything but the tables. -/
theorem attempt_of_sparesTables (spares : edit.SparesTables) (schema : Schema) :
    edit.attempt schema = { edit.attempt schema with tables := schema.tables } := by
  unfold Edit.attempt
  cases accepted : edit.apply schema with
  | error error => rfl
  | ok changed => simp only [← tables_of_sparesTables spares accepted]

/-- An edit that spares tables overlooks a change of one. -/
theorem IsOfTable.overlooks_of_spares (ofTable : IsOfTable tableId change)
    (spares : edit.SparesTables) : edit.Overlooks change := by
  cases ofTable with
  | nothing => exact overlooks_id edit
  | table new named =>
      intro schema
      rw [Schema.withTable, apply_withTables spares]
      cases accepted : edit.apply schema with
      | error error => rfl
      | ok changed =>
          simp only [Except.map, Schema.withTable, tables_of_sparesTables spares accepted]

/-- A change of a table and one of everything but the tables can be made in any order. -/
theorem IsOfTable.comm_elsewhere (ofTable : IsOfTable tableId change) (elsewhere : Schema) :
    Function.Commute change fun schema => { elsewhere with tables := schema.tables } := by
  cases ofTable with
  | nothing => exact Function.Commute.id_left
  | table new named => exact fun schema => rfl

/-- Independent edits make changes that the other one overlooks, and that can be made in any
order. -/
theorem exists_changes_of_independent (schema : Schema)
    (ofColumns : edit.tableOfColumns? = some tableId)
    (independent : other.IsIndependentOf tableId) :
    ∃ change changeOther : Schema → Schema,
      edit.attempt schema = change schema ∧ other.attempt schema = changeOther schema
        ∧ other.Overlooks change ∧ edit.Overlooks changeOther
        ∧ Function.Commute change changeOther := by
  obtain ⟨change, ofTable, made⟩ := exists_isOfTable ofColumns schema
  rcases independent with spares | ⟨otherId, different, ofOther⟩
  · exact ⟨change, _, made, attempt_of_sparesTables spares schema,
      ofTable.overlooks_of_spares spares, overlooks_elsewhere ofColumns _,
      ofTable.comm_elsewhere _⟩
  · obtain ⟨changeOther, ofOtherTable, madeOther⟩ := exists_isOfTable ofOther schema
    exact ⟨change, changeOther, made, madeOther, ofTable.overlooks ofOther different,
      ofOtherTable.overlooks ofColumns different.symm, ofTable.comm ofOtherTable different⟩

end Footprints

section Orders

variable {edit other : Edit} {workspace : Workspace} {schema : Schema}

/-- What an edit makes of a workspace with a schema: it ends as its verdict says, and leaves a time
on the schema when it is accepted. -/
theorem outcome_apply_eq (now : Timestamp) (edit : Edit)
    (current : workspace.schema? = some schema) :
    ((Action.apply edit).outcome now workspace).1 = edit.verdict schema
      ∧ ∃ time, ((Action.apply edit).outcome now workspace).2.schema? =
        some { edit.attempt schema with updatedAt := time } := by
  rw [outcome_apply now edit current, Edit.verdict, Edit.attempt]
  cases edit.apply schema with
  | error error => exact ⟨rfl, schema.updatedAt, current⟩
  | ok changed => exact ⟨rfl, now, rfl⟩

/-- What an edit makes of a workspace behind another edit, when it overlooks what that one changes:
it ends as it does without it, and the change of the other one is carried along. -/
theorem outcome_behind_overlooked {change : Schema → Schema} (first second : Timestamp)
    (current : workspace.schema? = some schema) (made : edit.attempt schema = change schema)
    (overlooks : other.Overlooks change) :
    let behind := ((Action.apply edit).outcome first workspace).2
    ((Action.apply other).outcome second behind).1 = other.verdict schema
      ∧ ∃ time, ((Action.apply other).outcome second behind).2.schema? =
        some { change (other.attempt schema) with updatedAt := time } := by
  intro behind
  obtain ⟨-, time, there⟩ := outcome_apply_eq first edit current
  obtain ⟨ends, last, leaves⟩ := outcome_apply_eq second other there
  have timeless := overlooks_updatedAt other time
  rw [made] at ends leaves
  rw [timeless.verdict, overlooks.verdict] at ends
  rw [timeless.attempt, overlooks.attempt] at leaves
  exact ⟨ends, last, leaves⟩

end Orders

/-- An edit of the columns of one table, and an edit that is not about tables or about the columns
of another one, can be made in any order: each of them is accepted, or refused for the same reason,
no matter whether the other one was made before, and both orders lead to the same schema apart from
the time of its last update. -/
theorem independent_edits_commute {edit other : Edit} {tableId : String}
    (ofColumns : edit.tableOfColumns? = some tableId)
    (independent : other.IsIndependentOf tableId) (workspace : Workspace) (schema : Schema)
    (loading first second first' second' : Timestamp) :
    let start := workspace.load loading schema
    let once := (Action.apply edit).outcome first start
    let straight := (Action.apply other).outcome second once.2
    let once' := (Action.apply other).outcome first' start
    let swapped := (Action.apply edit).outcome second' once'.2
    once.1 = swapped.1 ∧ straight.1 = once'.1
      ∧ ∃ (last : Schema) (time time' : Timestamp),
        straight.2.schema? = some { last with updatedAt := time }
          ∧ swapped.2.schema? = some { last with updatedAt := time' } := by
  intro start once straight once' swapped
  have current : start.schema? = some schema := rfl
  obtain ⟨change, changeOther, made, madeOther, overlooks, overlooksOther, comm⟩ :=
    exists_changes_of_independent schema ofColumns independent
  obtain ⟨endsOther, time, leaves⟩ :=
    outcome_behind_overlooked first second current made overlooks
  obtain ⟨ends, time', leaves'⟩ :=
    outcome_behind_overlooked first' second' current madeOther overlooksOther
  have sameEnd : changeOther (edit.attempt schema) = change (other.attempt schema) := by
    rw [made, madeOther, comm schema]
  refine ⟨(outcome_apply_eq first edit current).1.trans ends.symm,
    endsOther.trans (outcome_apply_eq first' other current).1.symm,
    change (other.attempt schema), time, time', leaves, ?_⟩
  rw [← sameEnd]
  exact leaves'

/-- Of two tables with the identifier of the edit the first one gets a column. Before and behind it,
a column of another table is not given the name of a second one there, and a relationship that there
is not is not changed; removing another relationship and adding the column leave the same schema in
either order. -/
theorem independent_edits_commute_in_ledger :
    let column (id name : String) := Column.ofType id name .integer
    let accounts := (Table.empty "2" "accounts").addColumn (column "a" "id")
    let entries := ((Table.empty "3" "entries").addColumn (column "a" "id")).addColumn
      (column "b" "amount")
    let archive := Table.empty "2" "archive"
    let schema := { Schema.empty "1" "ledger" .mysql default with
      tables := [accounts, entries, archive]
      relationships := [.between "4" ("accounts", "id") ("entries", "id") .oneToMany] }
    let start := (Workspace.empty .standard).load default schema
    let outcome (edit : Edit) := (Action.apply edit).outcome default
    let adding := Edit.addColumn "2" (column "b" "total")
    let clashing := Edit.updateColumn "3" (column "b" "id")
    let missing := Edit.setCardinality "5" .manyToMany
    let removing := Edit.removeRelationship "4"
    adding.tableOfColumns? = some "2" ∧ clashing.IsIndependentOf "2"
      ∧ missing.IsIndependentOf "2" ∧ removing.IsIndependentOf "2"
      ∧ (outcome clashing (outcome adding start).2).1 =
        .error (.edit (.columnExists "id" "entries"))
      ∧ (outcome missing (outcome adding start).2).1 =
        .error (.edit (.notFound .relationship "5"))
      ∧ (outcome adding (outcome removing start).2).1 = .ok ()
      ∧ ∃ time, (outcome adding (outcome removing start).2).2.schema? =
        some { schema with
          tables := [accounts.addColumn (column "b" "total"), entries, archive]
          relationships := []
          updatedAt := time } := by
  intro column accounts entries archive schema start outcome adding clashing missing removing
  have ofColumns : adding.tableOfColumns? = some "2" := rfl
  have ofEntries : clashing.IsIndependentOf "2" := .inr ⟨"3", by decide, rfl⟩
  have spares : missing.IsIndependentOf "2" := .inl trivial
  have removes : removing.IsIndependentOf "2" := .inl trivial
  obtain ⟨-, clashes, -⟩ := independent_edits_commute ofColumns ofEntries (.empty .standard) schema
    default default default default default
  obtain ⟨-, misses, -⟩ := independent_edits_commute ofColumns spares (.empty .standard) schema
    default default default default default
  obtain ⟨added, -, last, time, time', straight, swapped⟩ := independent_edits_commute ofColumns
    removes (.empty .standard) schema default default default default default
  refine ⟨ofColumns, ofEntries, spares, removes, clashes, misses, added.symm, time', ?_⟩
  refine swapped.trans (congrArg some ?_)
  have reached := Option.some.inj straight
  have same := congrArg (fun schema : Schema => { schema with updatedAt := time' }) reached
  exact same.symm

end DbSchema
