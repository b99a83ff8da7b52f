import DbSchema.Proofs.Sql.Composition
import DbSchema.Proofs.Workspace.Junctions

/-!
# Edits of relationships in the script

What is done to relationships leaves the rest of a schema as it is (`apply_ofRelationship`, and
`agreesElsewhere_of_edited` for runs), so that of a script only the section of the junction tables
can change. The other parts stay, also when that section appears or goes.
-/

namespace DbSchema

/-- Whether an edit adds, changes or removes a relationship. -/
def Edit.IsOfRelationship : Edit → Prop
  | addRelationship _ | updateRelationship _ | removeRelationship _ | setCardinality _ _ => True
  | _ => False

/-- Whether schemas are the same except for their relationships and the time of the last update. -/
def Schema.AgreesElsewhere (first last : Schema) : Prop :=
  last = { first with relationships := last.relationships, updatedAt := last.updatedAt }

section Edits

variable {first schema changed last : Schema} {edit : Edit}

/-- An edit of a relationship changes the list of relationships and nothing else. -/
theorem apply_ofRelationship (kind : edit.IsOfRelationship)
    (accepted : edit.apply schema = .ok changed) :
    changed = { schema with relationships := changed.relationships } := by
  cases edit with
  | rename | describe | setDialect | addTable | updateTable | removeTable | addColumn
  | updateColumn | removeColumn => exact kind.elim
  | addRelationship relationship =>
      obtain rfl := Except.ok.inj accepted
      rfl
  | updateRelationship | setCardinality =>
      obtain ⟨before, known, after, -, rfl⟩ := modifyRelationship_eq_ok_iff.1 accepted
      rfl
  | removeRelationship relationshipId =>
      obtain ⟨-, rfl⟩ := removeRelationship_eq_ok_iff.1 accepted
      rfl

/-- Runs of such edits change nothing else either, except for the time of the last update. -/
theorem agreesElsewhere_of_edited (run : Edited (fun _ edit => edit.IsOfRelationship) first last) :
    first.AgreesElsewhere last := by
  refine run.keeps (fun {schema edit changed} agrees kind accepted => ?_)
    (fun {schema} time agrees => ?_) rfl
  · unfold Schema.AgreesElsewhere at agrees ⊢
    rw [apply_ofRelationship kind accepted, agrees]
  · unfold Schema.AgreesElsewhere at agrees ⊢
    rw [agrees]

end Edits

namespace Sql

section Texts

variable {first last : Schema}

/-- The text in front of the junction tables tells nothing of relationships. -/
theorem textInFront_of_agrees (options : Options) (now : Timestamp)
    (agrees : first.AgreesElsewhere last) :
    textInFront options now last = textInFront options now first := by
  rw [agrees]
  rfl

/-- Nor does the text behind them. -/
theorem textBehind_of_agrees (dialect : Dialect) (agrees : first.AgreesElsewhere last) :
    textBehind dialect last = textBehind dialect first := by
  rw [agrees]
  rfl

/-- The junction tables depend on the joined relationships only. -/
theorem junctionText_of_agrees (dialect : Dialect) (agrees : first.AgreesElsewhere last)
    (joined : last.joined = first.joined) :
    junctionText dialect last = junctionText dialect first := by
  have statements : createJunctions dialect last = createJunctions dialect first := by
    rw [createJunctions_eq, createJunctions_eq, joined]
    refine List.filterMap_congr fun relationship _ => ?_
    rw [agrees]
    rfl
  rw [junctionText, junctionText, junctionSection, junctionSection, statements]

/-- The dialect of a script does not depend on relationships. -/
theorem dialectFor_of_agrees (options : Options) (agrees : first.AgreesElsewhere last) :
    options.dialectFor last = options.dialectFor first := by
  rw [agrees]
  rfl

/-- Without routines, only the end of the last line stands behind the junction tables. -/
theorem textBehind_of_no_routines (dialect : Dialect) (none : first.routines = []) :
    textBehind dialect first = ['\n'] := by
  simp [textBehind, routineSection, Section.textBehindLine, none]

end Texts

end Sql

section Scripts

open Sql

/-- Edits of relationships, whether accepted or refused, leave the text of a script in front of its
junction tables and the text behind them, in every dialect and at any time of generation. When the
same relationships are joined as before, the script is the same. A script without routines and
junction tables, trimmed at its end, starts the new one. -/
theorem relationship_edits_change_junctions_only (workspace : Workspace) (time : Timestamp)
    (schema : Schema) (edits : List (Timestamp × Edit))
    (kind : ∀ edit ∈ edits, edit.2.IsOfRelationship) :
    ∃ last, ((workspace.load time schema).afterEdits edits).schema? = some last
      ∧ ∀ (options : Options) (now : Timestamp),
        let dialect := options.dialectFor schema
        (compile options now schema).toList =
            textInFront options now schema ++ junctionText dialect schema
              ++ textBehind dialect schema
          ∧ (compile options now last).toList =
            textInFront options now schema ++ junctionText dialect last
              ++ textBehind dialect schema
          ∧ (last.joined = schema.joined →
            compile options now last = compile options now schema)
          ∧ (schema.routines = [] → schema.joined = [] →
            Text.trimEnd (compile options now schema).toList <+:
              (compile options now last).toList) := by
  have loaded : (workspace.load time schema).schema? = some schema := rfl
  obtain ⟨last, there, run⟩ := edited_of_afterEdits_ofKind loaded edits kind
  have agrees := agreesElsewhere_of_edited run
  refine ⟨last, there, fun options now => ?_⟩
  intro dialect
  have before := toList_compile_eq_parts options now schema
  have behind : (compile options now last).toList =
      textInFront options now schema ++ junctionText dialect last ++ textBehind dialect schema := by
    rw [toList_compile_eq_parts, dialectFor_of_agrees options agrees,
      textInFront_of_agrees options now agrees, textBehind_of_agrees dialect agrees]
  refine ⟨before, behind, fun joined => ?_, fun noRoutines unjoined => ?_⟩
  · rw [← String.toList_inj, behind, before, junctionText_of_agrees dialect agrees joined]
  · rw [before, behind, junctionText_eq_nil_iff.2 unjoined,
      textBehind_of_no_routines dialect noRoutines, List.append_nil, List.append_assoc]
    -- Of the earlier text only the end of its last line is not in the later one, and is trimmed.
    have front : Text.trimEnd (textInFront options now schema ++ ['\n']) <+:
        textInFront options now schema := by
      rw [Text.trimEnd, Text.dropTrailing_append_dropped _ (by decide)]
      exact Text.dropTrailing_prefix ..
    exact front.trans (List.prefix_append _ _)

/-- Switching a relationship to many-to-many brings a section of junction tables behind a script
that had none, and switching it back takes the section away again. A refused edit in between does
nothing. -/
theorem relationship_edits_change_junctions_only_when_switched :
    let schema := { Schema.empty "1" "s" .postgresql default with
      tables := [.inNamespace (.empty "2" "a") "x", .empty "3" "b"]
      relationships := [.between "4" ("a", "id") ("b", "id") .oneToMany] }
    let joining := [.setCardinality "4" .manyToMany, .removeRelationship "5"].map
      fun edit : Edit => ((default : Timestamp), edit)
    let options : Options := ⟨false, some .mysql⟩
    let loaded := (Workspace.empty .standard).load default schema
    ∃ joined back,
      (loaded.afterEdits joining).schema? = some joined
      ∧ (loaded.afterEdits (joining ++ [(default, .setCardinality "4" .oneToMany)])).schema?
        = some back
      ∧ junctionText .mysql schema = [] ∧ junctionText .mysql joined ≠ []
      ∧ (compile options default joined).toList =
        textInFront options default schema ++ junctionText .mysql joined
          ++ textBehind .mysql schema
      ∧ Text.trimEnd (compile options default schema).toList <+:
        (compile options default joined).toList
      ∧ compile options default back = compile options default schema := by
  intro schema joining options loaded
  obtain ⟨joined, there, texts⟩ := relationship_edits_change_junctions_only (.empty .standard)
    default schema joining (by simp [joining, Edit.IsOfRelationship])
  obtain ⟨back, thereAgain, textsAgain⟩ := relationship_edits_change_junctions_only
    (.empty .standard) default schema (joining ++ [(default, .setCardinality "4" .oneToMany)])
    (by simp [joining, Edit.IsOfRelationship])
  obtain ⟨-, apart, -, starts⟩ := texts options default
  obtain ⟨-, -, same, -⟩ := textsAgain options default
  refine ⟨joined, back, there, thereAgain, rfl, ?_, apart, starts rfl rfl, same ?_⟩
  · obtain rfl := Option.some.inj there
    exact fun none => absurd (junctionText_eq_nil_iff.1 none) (List.cons_ne_nil _ _)
  · obtain rfl := Option.some.inj thereAgain
    rfl

end Scripts

end DbSchema
