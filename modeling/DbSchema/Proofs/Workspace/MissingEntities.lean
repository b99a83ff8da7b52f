import DbSchema.Proofs.Workspace.Distinctness
import DbSchema.Proofs.Workspace.Junctions

/-!
# Edits of what is not there

An edit that addresses something a schema does not have is refused, and the workspace stays as it
was. The error says what is missing, unless the edit brings a name that is looked at earlier and
found to be taken. `missing_entities_are_rejected` is this law for all edits; the lemmas before it
say for each function that looks something up how it fails.
-/

namespace DbSchema

/-- The table that is found under an identifier. -/
def Schema.tableOfId? (schema : Schema) (tableId : String) : Option Table :=
  schema.tables.find? fun table => table.id == tableId

namespace Edit

/-- The identifier of the table that an edit addresses, on its own or for one of its columns. -/
def tableId? : Edit → Option String
  | updateTable table => some table.id
  | removeTable tableId | addColumn tableId _ | updateColumn tableId _ | removeColumn tableId _ =>
    some tableId
  | _ => none

/-- The identifier of the column that an edit addresses in its table. -/
def columnId? : Edit → Option String
  | updateColumn _ column => some column.id
  | removeColumn _ columnId => some columnId
  | _ => none

/-- The identifier of the relationship that an edit addresses. -/
def relationshipId? : Edit → Option String
  | updateRelationship relationship => some relationship.id
  | removeRelationship relationshipId | setCardinality relationshipId _ => some relationshipId
  | _ => none

/-- Whether an edit addresses a thing of a kind, by an identifier, that a schema does not have. A
column is missing from the table that is found for it. -/
def Misses (edit : Edit) (schema : Schema) : EntityKind → String → Prop
  | .table, id => edit.tableId? = some id ∧ ∀ table ∈ schema.tables, table.id ≠ id
  | .column, id =>
    edit.columnId? = some id ∧ ∃ table, edit.tableId?.bind schema.tableOfId? = some table
      ∧ ∀ column ∈ table.columns, column.id ≠ id
  | .relationship, id =>
    edit.relationshipId? = some id ∧ ∀ relationship ∈ schema.relationships, relationship.id ≠ id

/-- How an edit is refused for a name that is looked at before what is to have it is looked up: a
table, or a column in a table that is found, gets a name that another one has. -/
inductive ClashesFirst (schema : Schema) : Edit → EditError → Prop where
  | table {table other : Table} (member : other ∈ schema.tables) (named : other.name = table.name)
      (differs : other.id ≠ table.id) :
      ClashesFirst schema (.updateTable table) (.tableExists table.name)
  | column {tableId : String} {table : Table} {column other : Column}
      (found : schema.tableOfId? tableId = some table) (member : other ∈ table.columns)
      (named : other.name = column.name) (differs : other.id ≠ column.id) :
      ClashesFirst schema (.updateColumn tableId column) (.columnExists column.name table.name)

end Edit

section Lookups

variable {schema : Schema} {tableId : String} {error : EditError}

/-- No table is found exactly when none has the identifier. -/
theorem tableOfId?_eq_none_iff :
    schema.tableOfId? tableId = none ↔ ∀ table ∈ schema.tables, table.id ≠ tableId := by
  simp [Schema.tableOfId?]

/-- Nothing is changed exactly when nothing satisfies the test. -/
theorem modifyFirst?_eq_none_iff {α : Type} {test : α → Bool} {change : α → α} {list : List α} :
    modifyFirst? test change list = none ↔ ∀ element ∈ list, test element = false := by
  induction list with
  | nil => simp [modifyFirst?]
  | cons head rest inductionHypothesis =>
      rw [modifyFirst?, List.forall_mem_cons]
      cases test head <;> simp [inductionHypothesis]

/-- A change of a table is refused when there is no table, or for a reason of its own. -/
theorem modifyTable_eq_error_iff {change : Table → Except EditError Table} :
    schema.modifyTable tableId change = .error error ↔
      (schema.tableOfId? tableId = none ∧ error = .notFound .table tableId)
        ∨ ∃ table, schema.tableOfId? tableId = some table ∧ change table = .error error := by
  unfold Schema.modifyTable Schema.tableOfId?
  cases schema.tables.find? fun table => table.id == tableId with
  | none => simp [eq_comm]
  | some table =>
      cases result : change table <;> simp [result, bind, Except.bind, pure, Except.pure]

/-- A name is taken exactly when a table with another identifier has it. -/
theorem hasOtherTable_eq_true_iff {table : Table} :
    schema.hasOtherTable table.name (some table.id) = true ↔
      ∃ other ∈ schema.tables, other.name = table.name ∧ other.id ≠ table.id := by
  simp [Schema.hasOtherTable]

/-- The name of a column is taken exactly when a column with another identifier has it. -/
theorem hasOtherColumn_eq_true_iff {table : Table} {column : Column} :
    table.hasOtherColumn column = true ↔
      ∃ other ∈ table.columns, other.name = column.name ∧ other.id ≠ column.id := by
  simp [Table.hasOtherColumn]

/-- A table is not replaced when another one has the name, and otherwise when there is none. -/
theorem updateTable_eq_error_iff {table : Table} :
    schema.updateTable table = .error error ↔
      if schema.hasOtherTable table.name (some table.id) then error = .tableExists table.name
      else schema.tableOfId? table.id = none ∧ error = .notFound .table table.id := by
  unfold Schema.updateTable
  split
  case isTrue => simp [eq_comm]
  case isFalse =>
    cases found : schema.tableOfId? table.id with
    | none =>
        rw [Schema.tableOfId?] at found
        simp [found, eq_comm]
    | some old =>
        obtain ⟨before, after, first⟩ := exists_isFirst_of_find? found
        have replaced : schema.modifyTable table.id (fun _ => .ok table) =
            .ok { schema with tables := before ++ table :: after } :=
          modifyTable_eq_ok_iff.2 ⟨before, old, after, table, first, rfl, rfl⟩
        rw [first.find?, replaced]
        simp [bind, Except.bind, pure, Except.pure]

/-- A column is not replaced when another one has the name, and otherwise when there is none. -/
theorem updateColumn_eq_error_iff {table : Table} {column : Column} :
    table.updateColumn column = .error error ↔
      if table.hasOtherColumn column then error = .columnExists column.name table.name
      else
        (∀ known ∈ table.columns, known.id ≠ column.id)
          ∧ error = .notFound .column column.id := by
  unfold Table.updateColumn
  split
  case isTrue => simp [eq_comm]
  case isFalse =>
    have missing : modifyFirst? (fun known => known.id == column.id) (fun _ => column)
        table.columns = none ↔ ∀ known ∈ table.columns, known.id ≠ column.id := by
      simp [modifyFirst?_eq_none_iff]
    rw [← missing]
    split
    case h_1 unknown => simp [unknown, eq_comm]
    case h_2 columns known => simp [known]

/-- Adding a column never says that something is missing. -/
theorem addNewColumn_ne_notFound {table : Table} {column : Column} {kind : EntityKind}
    {id : String} : table.addNewColumn column ≠ .error (.notFound kind id) := by
  unfold Table.addNewColumn
  split <;> simp

/-- Columns are not removed exactly when none has the identifier. -/
theorem removeColumn_eq_error_iff {table : Table} {columnId : String} :
    table.removeColumn columnId = .error error ↔
      (∀ known ∈ table.columns, known.id ≠ columnId) ∧ error = .notFound .column columnId := by
  unfold Table.removeColumn
  split
  case isTrue known =>
    simp only [List.any_eq_true, beq_iff_eq] at known
    simpa using fun missing => absurd known (by simpa using missing)
  case isFalse unknown =>
    simp only [List.any_eq_true, beq_iff_eq, not_exists, not_and] at unknown
    simpa [eq_comm] using fun _ => unknown

/-- A relationship is not changed exactly when none has the identifier. -/
theorem modifyRelationship_eq_error_iff {relationshipId : String}
    {change : Relationship → Relationship} :
    schema.modifyRelationship relationshipId change = .error error ↔
      (∀ known ∈ schema.relationships, known.id ≠ relationshipId)
        ∧ error = .notFound .relationship relationshipId := by
  have missing : modifyFirst? (fun known => known.id == relationshipId) change
      schema.relationships = none ↔ ∀ known ∈ schema.relationships, known.id ≠ relationshipId := by
    simp [modifyFirst?_eq_none_iff]
  rw [← missing, Schema.modifyRelationship]
  split
  case h_1 unknown => simp [unknown, eq_comm]
  case h_2 relationships known => simp [known]

/-- A table is not removed exactly when there is none. -/
theorem removeTable_eq_error_iff :
    (Edit.removeTable tableId).apply schema = .error error ↔
      schema.tableOfId? tableId = none ∧ error = .notFound .table tableId := by
  simp only [Edit.apply, Schema.tableOfId?]
  cases schema.tables.find? fun table => table.id == tableId <;> simp [eq_comm]

/-- Relationships are not removed exactly when none has the identifier. -/
theorem removeRelationship_eq_error_iff {relationshipId : String} :
    (Edit.removeRelationship relationshipId).apply schema = .error error ↔
      (∀ known ∈ schema.relationships, known.id ≠ relationshipId)
        ∧ error = .notFound .relationship relationshipId := by
  simp only [Edit.apply]
  split
  case isTrue known =>
    simp only [List.any_eq_true, beq_iff_eq] at known
    simpa using fun missing => absurd known (by simpa using missing)
  case isFalse unknown =>
    simp only [List.any_eq_true, beq_iff_eq, not_exists, not_and] at unknown
    simpa [eq_comm] using fun _ => unknown

end Lookups

section Law

variable {schema : Schema} {edit : Edit} {error : EditError} {kind : EntityKind} {id : String}

/-- A name that is looked at first is a reason for refusal whatever else is wrong. -/
theorem Edit.ClashesFirst.apply_eq (clash : edit.ClashesFirst schema error) :
    edit.apply schema = .error error := by
  cases clash with
  | table member named differs =>
      refine updateTable_eq_error_iff.2 ?_
      rw [if_pos (hasOtherTable_eq_true_iff.2 ⟨_, member, named, differs⟩)]
  | column found member named differs =>
      refine modifyTable_eq_error_iff.2 (.inr ⟨_, found, updateColumn_eq_error_iff.2 ?_⟩)
      rw [if_pos (hasOtherColumn_eq_true_iff.2 ⟨_, member, named, differs⟩)]

/-- An error that says that something is missing is right about it. -/
theorem misses_of_apply_eq (refused : edit.apply schema = .error (.notFound kind id)) :
    edit.Misses schema kind id := by
  have ofTable {tableId : String} (addressed : edit.tableId? = some tableId)
      (missing : schema.tableOfId? tableId = none)
      (same : EditError.notFound kind id = .notFound .table tableId) :
      edit.Misses schema kind id := by
    obtain ⟨rfl, rfl⟩ := EditError.notFound.inj same
    exact ⟨addressed, tableOfId?_eq_none_iff.1 missing⟩
  have ofRelationship {relationshipId : String}
      (addressed : edit.relationshipId? = some relationshipId)
      (cause : (∀ known ∈ schema.relationships, known.id ≠ relationshipId)
        ∧ EditError.notFound kind id = .notFound .relationship relationshipId) :
      edit.Misses schema kind id := by
    obtain ⟨rfl, rfl⟩ := EditError.notFound.inj cause.2
    exact ⟨addressed, cause.1⟩
  cases edit with
  | rename | describe | setDialect | addRelationship => simp [Edit.apply] at refused
  | addTable table =>
      simp only [Edit.apply] at refused
      split at refused <;> simp at refused
  | updateTable table =>
      have cause := updateTable_eq_error_iff.1 refused
      split at cause
      · simp at cause
      · exact ofTable rfl cause.1 cause.2
  | removeTable tableId =>
      have cause := removeTable_eq_error_iff.1 refused
      exact ofTable rfl cause.1 cause.2
  | addColumn tableId column =>
      rcases modifyTable_eq_error_iff.1 refused with ⟨missing, same⟩ | ⟨table, -, impossible⟩
      · exact ofTable rfl missing same
      · exact absurd impossible addNewColumn_ne_notFound
  | updateColumn tableId column =>
      rcases modifyTable_eq_error_iff.1 refused with ⟨missing, same⟩ | ⟨table, found, cause⟩
      · exact ofTable rfl missing same
      · have cause := updateColumn_eq_error_iff.1 cause
        split at cause
        · simp at cause
        · obtain ⟨rfl, rfl⟩ := EditError.notFound.inj cause.2
          exact ⟨rfl, table, found, cause.1⟩
  | removeColumn tableId columnId =>
      rcases modifyTable_eq_error_iff.1 refused with ⟨missing, same⟩ | ⟨table, found, cause⟩
      · exact ofTable rfl missing same
      · have cause := removeColumn_eq_error_iff.1 cause
        obtain ⟨rfl, rfl⟩ := EditError.notFound.inj cause.2
        exact ⟨rfl, table, found, cause.1⟩
  | updateRelationship relationship =>
      exact ofRelationship rfl (modifyRelationship_eq_error_iff.1 refused)
  | setCardinality relationshipId cardinality =>
      exact ofRelationship rfl (modifyRelationship_eq_error_iff.1 refused)
  | removeRelationship relationshipId =>
      exact ofRelationship rfl (removeRelationship_eq_error_iff.1 refused)

/-- An edit of a table that is missing is refused for it, or for a name that is looked at first. -/
theorem clashes_or_apply_eq_of_table (addressed : edit.tableId? = some id)
    (missing : schema.tableOfId? id = none) :
    (∃ error, edit.ClashesFirst schema error)
      ∨ edit.apply schema = .error (.notFound .table id) := by
  cases edit with
  | updateTable table =>
      obtain rfl := Option.some.inj addressed
      by_cases taken : schema.hasOtherTable table.name (some table.id) = true
      · obtain ⟨other, member, named, differs⟩ := hasOtherTable_eq_true_iff.1 taken
        exact .inl ⟨_, .table member named differs⟩
      · refine .inr (updateTable_eq_error_iff.2 ?_)
        rw [if_neg taken]
        exact ⟨missing, rfl⟩
  | removeTable =>
      obtain rfl := Option.some.inj addressed
      exact .inr (removeTable_eq_error_iff.2 ⟨missing, rfl⟩)
  | addColumn | updateColumn | removeColumn =>
      obtain rfl := Option.some.inj addressed
      exact .inr (modifyTable_eq_error_iff.2 (.inl ⟨missing, rfl⟩))
  | _ => simp [Edit.tableId?] at addressed

/-- An edit of a column that is missing in its table is refused for it, or for a name that is looked
at first. -/
theorem clashes_or_apply_eq_of_column {table : Table} (addressed : edit.columnId? = some id)
    (found : edit.tableId?.bind schema.tableOfId? = some table)
    (missing : ∀ column ∈ table.columns, column.id ≠ id) :
    (∃ error, edit.ClashesFirst schema error)
      ∨ edit.apply schema = .error (.notFound .column id) := by
  cases edit with
  | updateColumn tableId column =>
      obtain rfl := Option.some.inj addressed
      by_cases taken : table.hasOtherColumn column = true
      · obtain ⟨other, member, named, differs⟩ := hasOtherColumn_eq_true_iff.1 taken
        exact .inl ⟨_, .column found member named differs⟩
      · refine .inr (modifyTable_eq_error_iff.2
          (.inr ⟨table, found, updateColumn_eq_error_iff.2 ?_⟩))
        rw [if_neg taken]
        exact ⟨missing, rfl⟩
  | removeColumn tableId columnId =>
      obtain rfl := Option.some.inj addressed
      exact .inr (modifyTable_eq_error_iff.2
        (.inr ⟨table, found, removeColumn_eq_error_iff.2 ⟨missing, rfl⟩⟩))
  | _ => simp [Edit.columnId?] at addressed

/-- An edit of a relationship that is missing is refused for it. -/
theorem apply_eq_of_relationship (addressed : edit.relationshipId? = some id)
    (missing : ∀ relationship ∈ schema.relationships, relationship.id ≠ id) :
    edit.apply schema = .error (.notFound .relationship id) := by
  cases edit with
  | updateRelationship | setCardinality =>
      obtain rfl := Option.some.inj addressed
      exact modifyRelationship_eq_error_iff.2 ⟨missing, rfl⟩
  | removeRelationship =>
      obtain rfl := Option.some.inj addressed
      exact removeRelationship_eq_error_iff.2 ⟨missing, rfl⟩
  | _ => simp [Edit.relationshipId?] at addressed

/-- An edit of something that is missing is refused for it, or for a name that is looked at
first. -/
theorem Edit.Misses.clashes_or_apply_eq (misses : edit.Misses schema kind id) :
    (∃ error, edit.ClashesFirst schema error)
      ∨ edit.apply schema = .error (.notFound kind id) := by
  cases kind with
  | table => exact clashes_or_apply_eq_of_table misses.1 (tableOfId?_eq_none_iff.2 misses.2)
  | column =>
      obtain ⟨addressed, table, found, missing⟩ := misses
      exact clashes_or_apply_eq_of_column addressed found missing
  | relationship => exact .inr (apply_eq_of_relationship misses.1 misses.2)

/-- An edit is refused for something that is missing exactly when it is missing and no name was
looked at first and found to be taken. -/
theorem apply_eq_notFound_iff :
    edit.apply schema = .error (.notFound kind id) ↔
      edit.Misses schema kind id ∧ ¬∃ error, edit.ClashesFirst schema error := by
  constructor
  · intro refused
    refine ⟨misses_of_apply_eq refused, ?_⟩
    rintro ⟨error, clash⟩
    have same := Except.error.inj (refused.symm.trans clash.apply_eq)
    cases clash <;> simp at same
  · rintro ⟨misses, noClash⟩
    exact misses.clashes_or_apply_eq.resolve_left noClash

end Law

/-- An edit of something that the current schema does not have is refused and leaves the workspace
as it was. The error says what is missing exactly when no name that is looked at earlier is taken,
and is about that name otherwise; it never says so of something that is there. -/
theorem missing_entities_are_rejected {workspace : Workspace} {schema : Schema} (now : Timestamp)
    (current : workspace.schema? = some schema) (edit : Edit) :
    (∀ kind id, (Action.apply edit).outcome now workspace =
          (.error (.edit (.notFound kind id)), workspace) ↔
        edit.Misses schema kind id ∧ ¬∃ error, edit.ClashesFirst schema error)
      ∧ (∀ error, edit.ClashesFirst schema error →
        (Action.apply edit).outcome now workspace = (.error (.edit error), workspace))
      ∧ ∀ kind id, edit.Misses schema kind id →
        ∃ error, (Action.apply edit).outcome now workspace = (.error (.edit error), workspace) := by
  have outcome_eq_iff (error : EditError) :
      (Action.apply edit).outcome now workspace = (.error (.edit error), workspace) ↔
        edit.apply schema = .error error := by
    rw [outcome_apply now edit current]
    cases edit.apply schema <;> simp
  simp only [outcome_eq_iff]
  refine ⟨fun kind id => apply_eq_notFound_iff, fun error clash => clash.apply_eq, ?_⟩
  intro kind id misses
  rcases misses.clashes_or_apply_eq with ⟨error, clash⟩ | refused
  · exact ⟨error, clash.apply_eq⟩
  · exact ⟨_, refused⟩

/-- A column that is to be removed or added is missing with its table, whatever its name. -/
theorem missing_entities_are_rejected_in_listing :
    let schema := listing [("1", "a"), ("2", "b")] [("3", "x")]
    let workspace := (Workspace.empty .standard).load default schema
    workspace.schema? = some schema
      ∧ (Action.apply (.removeColumn "2" "4")).outcome default workspace =
        (.error (.edit (.notFound .column "4")), workspace)
      ∧ (Action.apply (.addColumn "4" (.ofType "3" "x" .text))).outcome default workspace =
        (.error (.edit (.notFound .table "4")), workspace) := by
  intro schema workspace
  have current : workspace.schema? = some schema := rfl
  refine ⟨current, ?_, ?_⟩
  · refine ((missing_entities_are_rejected default current _).1 .column "4").2
      ⟨⟨rfl, _, rfl, by decide⟩, ?_⟩
    rintro ⟨error, ⟨⟩⟩
  · refine ((missing_entities_are_rejected default current _).1 .table "4").2
      ⟨⟨rfl, by decide⟩, ?_⟩
    rintro ⟨error, ⟨⟩⟩

/-- A table that is not there, and a column that is not in its table, are refused for their names
where these are taken, and not as missing. -/
theorem missing_entities_hide_behind_names :
    let schema := listing [("1", "a"), ("2", "b")] [("3", "x")]
    let workspace := (Workspace.empty .standard).load default schema
    let ofTable := Edit.updateTable (.empty "4" "b")
    let ofColumn := Edit.updateColumn "1" (.ofType "4" "x" .text)
    workspace.schema? = some schema
      ∧ ofTable.Misses schema .table "4"
      ∧ (Action.apply ofTable).outcome default workspace =
        (.error (.edit (.tableExists "b")), workspace)
      ∧ ofColumn.Misses schema .column "4"
      ∧ (Action.apply ofColumn).outcome default workspace =
        (.error (.edit (.columnExists "x" "a")), workspace) :=
  ⟨rfl, ⟨rfl, by decide⟩, rfl, ⟨rfl, _, rfl, by decide⟩, rfl⟩

end DbSchema
