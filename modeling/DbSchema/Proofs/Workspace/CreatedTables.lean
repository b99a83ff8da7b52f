import DbSchema.Proofs.Sql.Provision
import DbSchema.Proofs.Workspace.Distinctness

/-!
# Which tables a script creates

A script creates the tables of its schema and a junction table for every many-to-many relationship
that has a name for one. The names of tables are kept apart by every edit, but nothing compares them
with the names of junction tables, nor these with each other. `nodup_createdNames_of_apply_iff` says
exactly which edits keep all of them apart: those whose table or junction table has a name that the
script does not create otherwise.
-/

namespace DbSchema

/-- The name of the junction table of a relationship, which only a many-to-many relationship with
the names for one has. -/
def Relationship.junctionName? (relationship : Relationship) : Option String :=
  match relationship.cardinality, relationship.junction with
  | .manyToMany, some junction => some junction.name
  | _, _ => none

namespace Schema

/-- The names of the junction tables, in the order of their relationships. -/
def junctionNames (schema : Schema) : List String :=
  schema.relationships.filterMap Relationship.junctionName?

/-- The names of the tables, and behind them the names of the junction tables. -/
def createdNames (schema : Schema) : List String :=
  schema.tables.map Table.name ++ schema.junctionNames

/-- The schema without the first relationship that has an identifier. -/
def withoutRelationship (schema : Schema) (relationshipId : String) : Schema :=
  { schema with
    relationships := schema.relationships.eraseP fun known => known.id == relationshipId }

end Schema

namespace Edit

/-- Whether tables and relationships that an edit adds have fresh identifiers, and relationships
that it brings come without names for a junction table. -/
def IsPlain (schema : Schema) : Edit → Prop
  | addTable table => ∀ known ∈ schema.tables, known.id ≠ table.id
  | addRelationship relationship =>
    (∀ known ∈ schema.relationships, known.id ≠ relationship.id) ∧ relationship.junction = none
  | updateRelationship relationship => relationship.junction = none
  | _ => True

/-- Whether a table that an edit brings is not called as a junction table, and a junction table that
it brings is not called as any other table or junction table. -/
def NamesAnew (schema : Schema) : Edit → Prop
  | addTable table | updateTable table => table.name ∉ schema.junctionNames
  | addRelationship relationship =>
    ∀ name ∈ relationship.normalized.junctionName?, name ∉ schema.createdNames
  | updateRelationship relationship =>
    ∀ name ∈ relationship.normalized.junctionName?,
      name ∉ (schema.withoutRelationship relationship.id).createdNames
  | setCardinality relationshipId cardinality =>
    ∀ known ∈ schema.relationships.find? fun known => known.id == relationshipId,
      ∀ name ∈ ({ known with cardinality } : Relationship).normalized.junctionName?,
        name ∉ (schema.withoutRelationship relationshipId).createdNames
  | _ => True

end Edit

namespace Sql

/-- The name of the table that a statement creates, without its namespace. -/
def Statement.createdName? (statement : Statement) : Option String :=
  statement.created?.map TableName.name

/-- The names of the tables that a script creates. -/
def Script.createdNames (script : Script) : List String :=
  script.statements.filterMap Statement.createdName?

section Scripts

variable {dialect : Dialect} {schema : Schema}

/-- Statements that create no table create no name. -/
theorem createdNames_eq_nil {statements : List Statement}
    (none : ∀ statement ∈ statements, statement.created? = none) :
    statements.filterMap Statement.createdName? = [] := by
  refine List.filterMap_eq_nil_iff.2 fun statement member => ?_
  rw [Statement.createdName?, none statement member, Option.map_none]

/-- The tables of a schema are created in order. -/
theorem createdNames_createTables :
    (createTables dialect schema).flatten.filterMap Statement.createdName? =
      schema.tables.map Table.name := by
  have single (table : Table) :
      (createTable dialect table).filterMap Statement.createdName? = [table.name] := by
    have comments : (commentStatements dialect table).filterMap Statement.createdName? = [] :=
      createdNames_eq_nil fun _ member => (parts_of_mem_commentStatements member).1
    rw [createTable, List.filterMap_cons, comments]
    rfl
  rw [createTables, ← List.flatMap_def, List.filterMap_flatMap]
  simp only [single, ← List.map_eq_flatMap]

/-- The junction tables of a schema are created in the order of their relationships. -/
theorem createdNames_createJunctions :
    (createJunctions dialect schema).filterMap Statement.createdName? = schema.junctionNames := by
  rw [createJunctions, Schema.junctionNames, List.filterMap_filterMap]
  refine List.filterMap_congr fun relationship _ => ?_
  rcases relationship with ⟨_, _, _, _, _, _, cardinality, _, junction⟩
  cases cardinality <;> cases junction <;> rfl

/-- A script creates the tables of its schema and the junction tables of its relationships, in every
dialect. -/
theorem createdNames_scriptOf (options : Options) (time : Timestamp) (schema : Schema) :
    (scriptOf options time schema).createdNames = schema.createdNames := by
  rw [Script.createdNames, statements_scriptOf, statementsOf]
  generalize options.dialectFor schema = dialect
  have namespaces : (createNamespaces dialect schema).filterMap Statement.createdName? = [] := by
    refine createdNames_eq_nil fun statement member => ?_
    obtain ⟨-, _, -, _, -, rfl⟩ := mem_createNamespaces.1 member
    rfl
  have enums : (createEnums dialect schema).filterMap Statement.createdName? = [] := by
    refine createdNames_eq_nil fun statement member => ?_
    obtain ⟨-, _, -, _, -, -, rfl⟩ := mem_createEnums.1 member
    rfl
  have indexes : (createIndexes dialect schema).filterMap Statement.createdName? = [] :=
    createdNames_eq_nil fun _ member => (parts_of_mem_createIndexes member).1
  have keys : (addForeignKeys dialect schema).filterMap Statement.createdName? = [] :=
    createdNames_eq_nil fun _ member => (parts_of_mem_addForeignKeys member).1
  have routines :
      (schema.routines.map (createRoutine dialect)).filterMap Statement.createdName? = [] :=
    createdNames_eq_nil fun _ member => (parts_of_mem_routines member).1
  simp only [List.filterMap_append, namespaces, enums, indexes, keys, routines,
    createdNames_createTables, createdNames_createJunctions, List.nil_append, List.append_nil]
  rfl

end Scripts

end Sql

section Steps

variable {schema changed : Schema} {edit : Edit} {before after : List Relationship}

/-- Putting an element into a list of different ones keeps them different exactly when it is another
one. -/
theorem nodup_insert_iff {before after : List String} {name : String}
    (apart : (before ++ after).Nodup) :
    (before ++ name :: after).Nodup ↔ name ∉ before ++ after := by
  rw [List.nodup_middle, List.nodup_cons, and_iff_left apart]

/-- Putting a relationship among others keeps the created names apart exactly when its junction
table, if it has one, is called otherwise. -/
theorem nodup_createdNames_insert_iff {relationship : Relationship}
    (apart : ({ schema with relationships := before ++ after } : Schema).createdNames.Nodup) :
    ({ schema with relationships := before ++ relationship :: after } : Schema).createdNames.Nodup ↔
      ∀ name ∈ relationship.junctionName?,
        name ∉ ({ schema with relationships := before ++ after } : Schema).createdNames := by
  unfold Schema.createdNames Schema.junctionNames at apart ⊢
  dsimp only at apart ⊢
  rw [List.filterMap_append, ← List.append_assoc] at apart ⊢
  cases called : relationship.junctionName? with
  | none =>
      rw [List.filterMap_append, List.filterMap_cons_none called, ← List.append_assoc]
      exact iff_of_true apart (by simp)
  | some name =>
      rw [List.filterMap_append, List.filterMap_cons_some called, ← List.append_assoc,
        nodup_insert_iff apart]
      simp

/-- Without the first relationship that has an identifier, those around it are left. -/
theorem withoutRelationship_eq {relationshipId : String} {relationship : Relationship}
    (first : IsFirst (fun known => known.id == relationshipId) schema.relationships before
      relationship after) :
    schema.withoutRelationship relationshipId =
      { schema with relationships := before ++ after } := by
  have erased : schema.relationships.eraseP (fun known => known.id == relationshipId) =
      before ++ after := by
    have passes : (relationship.id == relationshipId) = true := first.passes
    rw [first.split, List.eraseP_append_right _ (by simpa using first.earlier), List.eraseP_cons,
      passes, cond_true]
  rw [Schema.withoutRelationship, erased]

/-- A changed relationship keeps the created names apart exactly when its junction table, if it has
one, is called as no table or other junction table. -/
theorem nodup_createdNames_of_modifyRelationship_iff {relationshipId : String}
    {change : Relationship → Relationship} (apart : schema.createdNames.Nodup)
    (accepted : schema.modifyRelationship relationshipId change = .ok changed) :
    changed.createdNames.Nodup ↔
      ∀ known ∈ schema.relationships.find? fun known => known.id == relationshipId,
        ∀ name ∈ (change known).junctionName?,
          name ∉ (schema.withoutRelationship relationshipId).createdNames := by
  obtain ⟨before, known, after, first, rfl⟩ := modifyRelationship_eq_ok_iff.1 accepted
  have sublist : (before ++ after).Sublist schema.relationships := by
    rw [first.split]
    exact (List.Sublist.refl before).append (List.sublist_cons_self known after)
  have rest : ({ schema with relationships := before ++ after } : Schema).createdNames.Nodup :=
    ((List.Sublist.refl _).append (sublist.filterMap _)).nodup apart
  rw [nodup_createdNames_insert_iff rest, withoutRelationship_eq first, first.find?]
  simp

/-- A change of one table leaves the relationships alone. -/
theorem relationships_of_modifyTable {tableId : String} {change : Table → Except EditError Table}
    (accepted : schema.modifyTable tableId change = .ok changed) :
    changed.relationships = schema.relationships := by
  obtain ⟨_, _, _, _, _, _, rfl⟩ := modifyTable_eq_ok_iff.1 accepted
  rfl

/-- Renaming mentions of tables leaves the names of junction tables alone. -/
theorem junctionNames_of_updateTable {table : Table}
    (accepted : schema.updateTable table = .ok changed) :
    changed.junctionNames = schema.junctionNames := by
  obtain ⟨-, _, _, _, -, rfl⟩ := updateTable_eq_ok_iff.1 accepted
  split
  · rfl
  · rw [Schema.renameMentions, Schema.junctionNames, List.filterMap_map]
    rfl

/-- A table that is added keeps the created names apart exactly when it is called as no junction
table, because it is called as no other table. -/
theorem nodup_createdNames_of_addTable_iff {table : Table} (apart : schema.createdNames.Nodup)
    (accepted : (Edit.addTable table).apply schema = .ok changed) :
    changed.createdNames.Nodup ↔ table.name ∉ schema.junctionNames := by
  obtain ⟨free, rfl⟩ := addTable_eq_ok_iff.1 accepted
  have created : (schema.addTable table).createdNames =
      schema.tables.map Table.name ++ table.name :: schema.junctionNames := by
    simp [Schema.createdNames, Schema.junctionNames, Schema.addTable]
  have other : table.name ∉ schema.tables.map Table.name := by simpa using free
  rw [created, nodup_insert_iff apart, List.mem_append, not_or, and_iff_right other]

/-- A table that is replaced keeps the created names apart exactly when the new one is called as no
junction table. -/
theorem nodup_createdNames_of_updateTable_iff {table : Table}
    (ids : (schema.tables.map Table.id).Nodup) (apart : schema.createdNames.Nodup)
    (accepted : (Edit.updateTable table).apply schema = .ok changed) :
    changed.createdNames.Nodup ↔ table.name ∉ schema.junctionNames := by
  have brought := bringsOtherTable_name_of_apply accepted
  have junctions := junctionNames_of_updateTable accepted
  obtain ⟨before, old, after, first, names⟩ := marks_of_apply .name accepted
  have other : table.name ∉ before.map Table.name ++ after.map Table.name := by
    rw [← List.map_append]
    intro taken
    obtain ⟨known, around, same⟩ := List.mem_map.1 taken
    obtain ⟨member, otherId⟩ := (first.mem_around_iff ids).1 around
    exact brought known member otherId same
  -- The new name is put among the names of the other tables with the junction tables behind them.
  rw [Schema.createdNames, first.split] at apart
  rw [Schema.createdNames, junctions]
  generalize schema.junctionNames = called at apart ⊢
  have rest : (before.map Table.name ++ (after.map Table.name ++ called)).Nodup := by
    rw [List.map_append, List.map_cons, List.append_assoc, List.cons_append] at apart
    exact (List.nodup_middle.1 apart).of_cons
  have created : changed.tables.map Table.name ++ called =
      before.map Table.name ++ table.name :: (after.map Table.name ++ called) := by
    refine (congrArg (· ++ called) names).trans ?_
    simp [Mark.ofTable]
  rw [created, nodup_insert_iff rest, ← List.append_assoc, List.mem_append, not_or,
    and_iff_right other]

/-- While identifiers of tables are apart, an accepted edit keeps the names of created tables apart
exactly when it names anew what it brings. -/
theorem nodup_createdNames_of_apply_iff (ids : (schema.tables.map Table.id).Nodup)
    (apart : schema.createdNames.Nodup) (accepted : edit.apply schema = .ok changed) :
    changed.createdNames.Nodup ↔ edit.NamesAnew schema := by
  cases edit with
  | rename | describe | setDialect =>
      obtain rfl := Except.ok.inj accepted
      exact iff_of_true apart trivial
  | addTable table => exact nodup_createdNames_of_addTable_iff apart accepted
  | updateTable table => exact nodup_createdNames_of_updateTable_iff ids apart accepted
  | removeTable tableId =>
      have names : changed.tables.map Table.name =
          (schema.tables.filter fun table => table.id != tableId).map Table.name :=
        marks_of_apply .name accepted
      obtain ⟨_, table, _, -, rfl⟩ := removeTable_eq_ok_iff.1 accepted
      rw [Schema.createdNames, names]
      refine iff_of_true (List.Sublist.nodup ?_ apart) trivial
      exact (List.filter_sublist.map _).append (List.filter_sublist.filterMap _)
  | addColumn | updateColumn | removeColumn =>
      have names : changed.tables.map Table.name = schema.tables.map Table.name :=
        marks_of_apply .name accepted
      rw [Schema.createdNames, Schema.junctionNames, names, relationships_of_modifyTable accepted]
      exact iff_of_true apart trivial
  | addRelationship relationship =>
      obtain rfl := Except.ok.inj accepted
      have rest : ({ schema with relationships := schema.relationships ++ [] } :
          Schema).createdNames.Nodup := by
        rwa [List.append_nil]
      refine (nodup_createdNames_insert_iff rest).trans ?_
      rw [List.append_nil]
      rfl
  | updateRelationship relationship =>
      have replaced := nodup_createdNames_of_modifyRelationship_iff apart accepted
      obtain ⟨_, _, _, first, -⟩ := modifyRelationship_eq_ok_iff.1 accepted
      refine replaced.trans ?_
      simp [first.find?, Edit.NamesAnew]
  | removeRelationship relationshipId =>
      obtain ⟨-, rfl⟩ := removeRelationship_eq_ok_iff.1 accepted
      refine iff_of_true (List.Sublist.nodup ?_ apart) trivial
      exact (List.Sublist.refl _).append (List.filter_sublist.filterMap _)
  | setCardinality relationshipId cardinality =>
      exact nodup_createdNames_of_modifyRelationship_iff apart accepted

/-- The junction table of a relationship that comes without names for one is called after its two
tables. -/
theorem junctionName?_normalized {relationship : Relationship}
    (unnamed : relationship.junction = none) :
    relationship.normalized.junctionName? =
      if relationship.cardinality = .manyToMany then
        some (relationship.sourceTable ++ "_" ++ relationship.targetTable)
      else none := by
  have called (source target : String) :
      (JunctionTable.forTables source target).name = source ++ "_" ++ target := by
    unfold JunctionTable.forTables
    split <;> rfl
  unfold Relationship.normalized Relationship.junctionName?
  cases relationship.cardinality <;> simp [unnamed, called]

/-- A run of plain edits that name anew what they bring keeps the names of created tables apart. -/
theorem nodup_createdNames_of_edited {first last : Schema}
    (run : Edited (fun schema edit => edit.IsPlain schema ∧ edit.NamesAnew schema) first last)
    (ids : (first.tables.map Table.id).Nodup) (apart : first.createdNames.Nodup) :
    last.createdNames.Nodup := by
  refine (run.keeps (motive := fun schema =>
    (schema.tables.map Table.id).Nodup ∧ schema.createdNames.Nodup) ?_ ?_ ⟨ids, apart⟩).2
  · rintro schema edit changed ⟨ids, apart⟩ ⟨plain, anew⟩ accepted
    have otherId : edit.BringsOtherTable .id schema := by
      cases edit with
      | addTable table => exact plain
      | updateTable table => exact fun known _ other => other
      | _ => trivial
    exact ⟨(nodup_tables_of_apply_iff .id ids ids accepted).2 otherId,
      (nodup_createdNames_of_apply_iff ids apart accepted).2 anew⟩
  · exact fun time kept => kept

end Steps

/-- A schema whose tables differ in identifier, and whose tables and junction tables differ in name,
is brought by plain edits only to schemas whose scripts create every table once, as long as every
edit names anew what it brings; and an edit that does not is followed by a script that creates a
table twice. A junction table for which an edit makes up a name is called after its two tables. -/
theorem script_creates_tables_once {schema : Schema} (ids : (schema.tables.map Table.id).Nodup)
    (apart : schema.createdNames.Nodup) :
    (∀ last, Edited (fun schema edit => edit.IsPlain schema ∧ edit.NamesAnew schema) schema last →
      ∀ options time, (Sql.scriptOf options time last).createdNames.Nodup)
      ∧ (∀ (edit : Edit) (changed : Schema), edit.apply schema = .ok changed →
        ∀ options time,
          (Sql.scriptOf options time changed).createdNames.Nodup ↔ edit.NamesAnew schema)
      ∧ ∀ relationship : Relationship, relationship.junction = none →
        relationship.normalized.junctionName? =
          if relationship.cardinality = .manyToMany then
            some (relationship.sourceTable ++ "_" ++ relationship.targetTable)
          else none := by
  refine ⟨fun last run options time => ?_, fun edit changed accepted options time => ?_,
    fun relationship => junctionName?_normalized⟩
  · rw [Sql.createdNames_scriptOf]
    exact nodup_createdNames_of_edited run ids apart
  · rw [Sql.createdNames_scriptOf]
    exact nodup_createdNames_of_apply_iff ids apart accepted

/-- Two tables are joined and one of them is renamed, which leaves the junction table its name. A
table of that name makes the script create it twice. -/
theorem script_creates_joined_tables_once :
    let schema := listing [("1", "a"), ("2", "b")] []
    let joined := Relationship.between "3" ("a", "id") ("b", "id") .manyToMany
    let last := { listing [("1", "a"), ("2", "c")] [] with
      relationships := [.joinedBy (.between "3" ("a", "id") ("c", "id") .manyToMany)
        (.forTables "a" "b")] }
    joined.junction = none ∧ joined.normalized.junctionName? = some "a_b"
      ∧ (schema.tables.map Table.id).Nodup ∧ schema.createdNames = ["a", "b"]
      ∧ Edited (fun schema edit => edit.IsPlain schema ∧ edit.NamesAnew schema) schema last
      ∧ (∀ options time, (Sql.scriptOf options time last).createdNames.Nodup)
      ∧ ∀ options time,
        ¬(Sql.scriptOf options time (last.addTable (.empty "4" "a_b"))).createdNames.Nodup := by
  intro schema joined last
  have ids : (schema.tables.map Table.id).Nodup := by decide
  have lastIds : (last.tables.map Table.id).Nodup := by decide
  have run : Edited (fun schema edit => edit.IsPlain schema ∧ edit.NamesAnew schema) schema
      last := by
    have added : (Edit.addRelationship joined).apply schema =
        .ok (schema.addRelationship joined.normalized) := rfl
    have renamed : (Edit.updateTable (.empty "2" "c")).apply
        (schema.addRelationship joined.normalized) = .ok last := rfl
    refine .edit (.edit .start ⟨?_, ?_⟩ added default) ⟨trivial, ?_⟩ renamed default
    · exact ⟨fun known member => absurd member List.not_mem_nil, rfl⟩
    · unfold Edit.NamesAnew
      decide
    · unfold Edit.NamesAnew
      decide
  obtain ⟨runs, -, called⟩ := script_creates_tables_once ids (by decide)
  have once := runs last run
  have lastApart : last.createdNames.Nodup := by decide
  obtain ⟨-, exactly, -⟩ := script_creates_tables_once lastIds lastApart
  refine ⟨rfl, (called joined rfl).trans rfl, ids, rfl, run, once, fun options time twice => ?_⟩
  have anew := (exactly (.addTable (.empty "4" "a_b")) _ rfl options time).1 twice
  exact anew (.head _)

/-- The junction table of two tables may be called as a third one. -/
theorem script_creates_junction_twice :
    let first := listing [("1", "a"), ("2", "b"), ("3", "a_b")] []
    let joined := Relationship.between "4" ("a", "id") ("b", "id") .manyToMany
    let last := first.addRelationship joined.normalized
    (first.tables.map Table.id).Nodup ∧ (first.tables.map Table.name).Nodup
      ∧ first.relationships = [] ∧ Edited Edit.IsPlain first last
      ∧ ∀ options time, ¬(Sql.scriptOf options time last).createdNames.Nodup := by
  intro first joined last
  have added : (Edit.addRelationship joined).apply first = .ok last := rfl
  have plain : (Edit.addRelationship joined).IsPlain first :=
    ⟨fun known member => absurd member List.not_mem_nil, rfl⟩
  refine ⟨by decide, by decide, rfl, .edit .start plain added default, fun options time => ?_⟩
  rw [Sql.createdNames_scriptOf]
  decide

end DbSchema
