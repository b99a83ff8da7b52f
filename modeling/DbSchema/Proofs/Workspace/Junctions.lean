import DbSchema.Proofs.Sql.Mentions
import DbSchema.Proofs.Workspace.Coherence
import DbSchema.Proofs.Workspace.Editing
import Mathlib.Data.List.Induction

/-!
# Junction tables follow the cardinality

A relationship is normal when it has names for a junction table exactly if it is many-to-many. Edits
that bring a relationship normalize it, and all others leave both parts of a relationship alone, so
that every edit keeps a schema normal, whatever it brings: `isNormal_of_apply`.
`Workspace.afterEdits` follows a workspace through edits that may be refused, which
`edited_of_afterEdits` takes back to runs of accepted ones. The script of a normal schema joins
exactly the many-to-many relationships, since what it leaves out are relationships without names for
a junction table.
-/

namespace DbSchema

/-- Whether a relationship has names for a junction table exactly when it is many-to-many. -/
def Relationship.IsNormal (relationship : Relationship) : Prop :=
  relationship.junction.isSome = true ↔ relationship.cardinality = .manyToMany

instance (relationship : Relationship) : Decidable relationship.IsNormal :=
  inferInstanceAs (Decidable (_ ↔ _))

namespace Schema

/-- Whether all relationships are normal. -/
def IsNormal (schema : Schema) : Prop :=
  ∀ relationship ∈ schema.relationships, relationship.IsNormal

instance (schema : Schema) : Decidable schema.IsNormal :=
  inferInstanceAs (Decidable (∀ _ ∈ _, _))

/-- The many-to-many relationships, in order. -/
def manyToMany (schema : Schema) : List Relationship :=
  schema.relationships.filter fun relationship => relationship.cardinality == .manyToMany

end Schema

/-- The workspace behind edits that are made one after the other, each at its time. An edit that is
refused changes nothing. -/
def Workspace.afterEdits (workspace : Workspace) (edits : List (Timestamp × Edit)) : Workspace :=
  edits.foldl (fun workspace (now, edit) => ((Action.apply edit).outcome now workspace).2) workspace

/-- Whether a statement creates the junction table of a relationship: under the name that the
relationship has for it, with references to the source and to the target. -/
def Sql.Statement.Joins (dialect : Dialect) (schema : Schema) (relationship : Relationship)
    (statement : Statement) : Prop :=
  ∃ junction, relationship.junction = some junction
    ∧ statement.created? = some ⟨none, junction.name⟩
    ∧ statement.uses = [referencedName dialect schema relationship.sourceTable,
      referencedName dialect schema relationship.targetTable]

section Steps

variable {schema changed : Schema} {edit : Edit}

/-- Normalizing makes a relationship normal. -/
theorem isNormal_normalized (relationship : Relationship) : relationship.normalized.IsNormal := by
  unfold Relationship.normalized Relationship.IsNormal
  cases same : relationship.cardinality <;> simp

/-- A change that leaves a normal relationship keeps a schema normal. -/
theorem isNormal_of_modifyRelationship {relationshipId : String}
    {change : Relationship → Relationship} (normal : schema.IsNormal)
    (normalizes : ∀ relationship, (change relationship).IsNormal)
    (accepted : schema.modifyRelationship relationshipId change = .ok changed) :
    changed.IsNormal := by
  obtain ⟨before, known, after, first, rfl⟩ := modifyRelationship_eq_ok_iff.1 accepted
  unfold Schema.IsNormal at normal
  rw [first.split] at normal
  exact (forall_mem_replaced_iff normal).2 (normalizes known)

/-- Every accepted edit keeps a schema normal, whatever it brings. -/
theorem isNormal_of_apply (normal : schema.IsNormal) (accepted : edit.apply schema = .ok changed) :
    changed.IsNormal := by
  cases edit with
  | rename | describe | setDialect =>
      obtain rfl := Except.ok.inj accepted
      exact normal
  | addTable table =>
      obtain ⟨-, rfl⟩ := addTable_eq_ok_iff.1 accepted
      exact normal
  | updateTable table =>
      obtain ⟨-, _, old, _, -, rfl⟩ := updateTable_eq_ok_iff.1 accepted
      split
      · exact normal
      · -- Renaming a table rewrites the ends of relationships, which normality does not look at.
        intro relationship member
        obtain ⟨known, inSchema, rfl⟩ := List.mem_map.1 member
        exact normal known inSchema
  | removeTable tableId =>
      obtain ⟨_, table, _, -, rfl⟩ := removeTable_eq_ok_iff.1 accepted
      exact fun relationship member => normal relationship (List.mem_of_mem_filter member)
  | addColumn | updateColumn | removeColumn =>
      obtain ⟨_, _, _, _, _, _, rfl⟩ := modifyTable_eq_ok_iff.1 accepted
      exact normal
  | addRelationship relationship =>
      obtain rfl := Except.ok.inj accepted
      intro known member
      rcases List.mem_append.1 member with inSchema | added
      · exact normal known inSchema
      · obtain rfl := List.mem_singleton.1 added
        exact isNormal_normalized relationship
  | updateRelationship relationship =>
      exact isNormal_of_modifyRelationship normal (fun _ => isNormal_normalized _) accepted
  | removeRelationship relationshipId =>
      obtain ⟨-, rfl⟩ := removeRelationship_eq_ok_iff.1 accepted
      exact fun relationship member => normal relationship (List.mem_of_mem_filter member)
  | setCardinality relationshipId cardinality =>
      exact isNormal_of_modifyRelationship normal (fun _ => isNormal_normalized _) accepted

/-- Switching a relationship to many-to-many leaves the names that it has for a junction table. -/
theorem setCardinality_manyToMany {relationshipId : String} {before after : List Relationship}
    {known : Relationship} {junction : JunctionTable}
    (first : IsFirst (fun known => known.id == relationshipId) schema.relationships before known
      after)
    (named : known.junction = some junction) :
    (Edit.setCardinality relationshipId .manyToMany).apply schema =
      .ok { schema with
        relationships := before ++ { known with cardinality := .manyToMany } :: after } := by
  refine modifyRelationship_eq_ok_iff.2 ⟨before, known, after, first, ?_⟩
  simp [Relationship.normalized, named]

end Steps

section Runs

/-- How an edit of a workspace with a schema ends. -/
theorem outcome_apply {workspace : Workspace} {schema : Schema} (now : Timestamp) (edit : Edit)
    (current : workspace.schema? = some schema) :
    (Action.apply edit).outcome now workspace =
      match edit.apply schema with
      | .error error => (.error (.edit error), workspace)
      | .ok changed => (.ok (), workspace.load now { changed with updatedAt := now }) := by
  have run := congrArg Id.run (run_apply (m := Id) now workspace edit)
  rwa [current] at run

/-- Edits of a kind leave a workspace with the schema that the accepted ones among them lead to. -/
theorem edited_of_afterEdits_ofKind {kind : Edit → Prop} {workspace : Workspace} {schema : Schema}
    (current : workspace.schema? = some schema) (edits : List (Timestamp × Edit))
    (ofKind : ∀ edit ∈ edits, kind edit.2) :
    ∃ last, (workspace.afterEdits edits).schema? = some last
      ∧ Edited (fun _ edit => kind edit) schema last := by
  induction edits using List.reverseRecOn with
  | nil => exact ⟨schema, current, .start⟩
  | append_singleton edits last inductionHypothesis =>
      obtain ⟨reached, there, run⟩ := inductionHypothesis fun edit member =>
        ofKind edit (List.mem_append_left _ member)
      have lastOfKind := ofKind last (List.mem_append_right _ (.head _))
      obtain ⟨now, edit⟩ := last
      have step : workspace.afterEdits (edits ++ [(now, edit)]) =
          ((Action.apply edit).outcome now (workspace.afterEdits edits)).2 := by
        simp [Workspace.afterEdits]
      rw [step, outcome_apply now edit there]
      cases result : edit.apply reached with
      | error error => exact ⟨reached, there, run⟩
      | ok changed => exact ⟨_, rfl, .edit run lastOfKind result now⟩

/-- Edits leave a workspace with the schema that the accepted ones among them lead to. -/
theorem edited_of_afterEdits {workspace : Workspace} {schema : Schema}
    (current : workspace.schema? = some schema) (edits : List (Timestamp × Edit)) :
    ∃ last, (workspace.afterEdits edits).schema? = some last
      ∧ Edited (fun _ _ => True) schema last :=
  edited_of_afterEdits_ofKind current edits fun _ _ => trivial

/-- A run of accepted edits keeps a schema normal. -/
theorem isNormal_of_edited {kind : Schema → Edit → Prop} {first last : Schema}
    (run : Edited kind first last) (normal : first.IsNormal) : last.IsNormal :=
  run.keeps (fun normal _ accepted => isNormal_of_apply normal accepted)
    (fun _ normal => normal) normal

end Runs

section Scripts

open Sql

variable {dialect : Dialect} {schema : Schema} {relationship : Relationship}

/-- A normal many-to-many relationship has a junction table. -/
theorem exists_createJunction? (dialect : Dialect) (schema : Schema)
    (normal : relationship.IsNormal)
    (joined : relationship.cardinality = .manyToMany) :
    ∃ statement, createJunction? dialect schema relationship = some statement
      ∧ statement.Joins dialect schema relationship := by
  obtain ⟨junction, named⟩ := Option.isSome_iff_exists.1 (normal.2 joined)
  exact ⟨junctionStatement dialect schema relationship junction,
    createJunction?_eq_some_iff.2 ⟨joined, junction, named, rfl⟩, junction, named, rfl, rfl⟩

/-- No other relationship has a junction table. -/
theorem createJunction?_eq_none (apart : relationship.cardinality ≠ .manyToMany) :
    createJunction? dialect schema relationship = none :=
  Option.eq_none_iff_forall_ne_some.2 fun _ created =>
    apart (createJunction?_eq_some_iff.1 created).1

/-- The junction tables of a normal schema are those of its many-to-many relationships, one for
each, in their order. -/
theorem createJunctions_manyToMany (normal : schema.IsNormal) :
    List.Forall₂ (Statement.Joins dialect schema) schema.manyToMany
      (createJunctions dialect schema) := by
  unfold createJunctions Schema.manyToMany
  unfold Schema.IsNormal at normal
  -- The lookups stay in the whole schema while the induction goes through its relationships.
  generalize schema.relationships = relationships at normal
  induction relationships with
  | nil => exact .nil
  | cons relationship relationships inductionHypothesis =>
      have behind := inductionHypothesis fun other member => normal other (.tail _ member)
      by_cases joined : relationship.cardinality = .manyToMany
      · obtain ⟨statement, created, joins⟩ :=
          exists_createJunction? dialect schema (normal relationship (.head _)) joined
        rw [List.filter_cons_of_pos (by simpa using joined), List.filterMap_cons_some created]
        exact .cons joins behind
      · rw [List.filter_cons_of_neg (by simpa using joined),
          List.filterMap_cons_none (createJunction?_eq_none joined)]
        exact behind

end Scripts

end DbSchema
