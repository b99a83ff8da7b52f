import DbSchema.Workspace.Basic

/-!
# Workspaces stay coherent

The texts of a workspace are always those of its schema, compiled at the time of its last change.
What a step does is first brought into closed form, one lemma for each step: `settled` says what the
answer of a generator leaves of a workspace. `Reached` then follows a workspace through steps that
succeed and steps that fail.
-/

namespace DbSchema

/-- What can be done with a workspace. Generators are functions here, which may fail. -/
inductive Action where
  | load (schema : Schema)
  | clear
  | apply (edit : Edit)
  | generate (ask : GenerationRequest → Except WorkspaceError GenerationResponse)
      (request : GenerationRequest)
  | refine (ask : RefinementRequest → Except WorkspaceError GenerationResponse)
      (instruction : String)

/-- The step of an action. -/
def Action.step (now : Timestamp) : Action → Step Id Unit
  | load schema => Workspace.install now schema
  | clear => modify Workspace.clear
  | apply edit => Workspace.apply now edit
  | generate ask request => Workspace.generate now ask request
  | refine ask instruction => Workspace.refine now ask instruction

/-- How an action ends, and the workspace behind it. -/
def Action.outcome (now : Timestamp) (action : Action) (workspace : Workspace) :
    Except WorkspaceError Unit × Workspace :=
  ((action.step now).run.run workspace).run

/-- How the answer of a generator ends, and the workspace behind it. -/
def Workspace.settled (workspace : Workspace) (now : Timestamp) :
    Except WorkspaceError GenerationResponse → Except WorkspaceError Unit × Workspace
  | .error error => (.error error, workspace)
  | .ok response =>
    match response.result with
    | .ok schema => (.ok (), workspace.load now schema)
    | .error fault => (.error (.generation fault), workspace)

/-- The workspaces that are reached from the empty one, with the time of their last change. -/
inductive Reached (options : Sql.Options) : Timestamp → Workspace → Prop where
  | start (time : Timestamp) : Reached options time (.empty options)
  | changed {time now : Timestamp} {workspace next : Workspace} {action : Action}
      (reached : Reached options time workspace)
      (done : action.outcome now workspace = (.ok (), next)) : Reached options now next
  | failed {time now : Timestamp} {workspace next : Workspace} {action : Action}
      {error : WorkspaceError} (reached : Reached options time workspace)
      (failed : action.outcome now workspace = (.error error, next)) : Reached options time next

/-- Whether the texts of a workspace belong to its schema, compiled at a given time. -/
structure Workspace.Coherent (options : Sql.Options) (time : Timestamp) (workspace : Workspace) :
    Prop where
  keeps : workspace.options = options
  present : workspace.outputs?.isSome = workspace.schema?.isSome
  compiled : ∀ schema, workspace.schema? = some schema →
    workspace.outputs? = some ⟨Sql.compile options time schema, Diagram.compile schema⟩

/-- Whether an outcome is what the answer of a generator asks for: a schema that is reported as a
success is installed, and for everything else there is an error, which is never without words when
the answer was a response. -/
structure Settles (answer : Except WorkspaceError GenerationResponse)
    (outcome : Except WorkspaceError Unit × Workspace) : Prop where
  succeeds_iff : outcome.1 = .ok () ↔
    ∃ response schema, answer = .ok response ∧ response.success = true
      ∧ response.schema = some schema
  installs : ∀ response schema, answer = .ok response → response.success = true →
    response.schema = some schema → outcome.2.schema? = some schema
  explains : ∀ error, outcome.1 = .error error →
    answer = .error error ∨
      ∃ fault, error = .generation fault ∧ Text.isBlankText fault.reason = false

section Running

variable {m : Type → Type} [Monad m] {α β : Type} (workspace : Workspace)

@[simp] theorem run_step_pure (value : α) :
    (pure value : Step m α).run.run workspace = pure (.ok value, workspace) := rfl

@[simp] theorem run_step_throw (error : WorkspaceError) :
    (throw error : Step m α).run.run workspace = pure (.error error, workspace) := rfl

@[simp] theorem run_step_bind (first : Step m α) (next : α → Step m β) :
    (first >>= next).run.run workspace =
      first.run.run workspace >>= fun ended =>
        match ended with
        | (.ok value, behind) => (next value).run.run behind
        | (.error error, behind) => pure (.error error, behind) := by
  rw [ExceptT.run_bind, StateT.run_bind]
  refine bind_congr fun ended => ?_
  rcases ended with ⟨error | value, behind⟩ <;> rfl

variable [LawfulMonad m]

@[simp] theorem run_step_get :
    (get : Step m Workspace).run.run workspace = pure (.ok workspace, workspace) :=
  pure_bind (workspace, workspace) _

@[simp] theorem run_step_modify (change : Workspace → Workspace) :
    (modify change : Step m Unit).run.run workspace = pure (.ok (), change workspace) :=
  pure_bind ((), change workspace) _

@[simp] theorem run_step_ask (ask : m α) :
    (liftM ask : Step m α).run.run workspace =
      ask >>= fun answer => pure (.ok answer, workspace) := by
  refine (StateT.run_map _ _ _).trans ?_
  simp [monadLift, MonadLift.monadLift]

end Running

section Steps

variable {m : Type → Type} [Monad m] [LawfulMonad m] (now : Timestamp) (workspace : Workspace)

/-- Demanding a schema leaves the workspace alone. -/
theorem run_demandSchema :
    (Workspace.demandSchema : Step m Schema).run.run workspace =
      pure (match workspace.schema? with
        | some schema => .ok schema
        | none => .error .noSchema, workspace) := by
  cases current : workspace.schema? <;> simp [Workspace.demandSchema, current]

/-- Installing a schema always succeeds. -/
theorem run_install (schema : Schema) :
    (Workspace.install now schema : Step m Unit).run.run workspace =
      pure (.ok (), workspace.load now schema) := by
  simp [Workspace.install]

/-- An edit changes the workspace only when it is accepted. -/
theorem run_apply (edit : Edit) :
    (Workspace.apply now edit : Step m Unit).run.run workspace =
      pure (match workspace.schema? with
        | none => (.error .noSchema, workspace)
        | some schema =>
          match edit.apply schema with
          | .error error => (.error (.edit error), workspace)
          | .ok changed => (.ok (), workspace.load now { changed with updatedAt := now })) := by
  unfold Workspace.apply
  cases current : workspace.schema? with
  | none => simp [run_demandSchema, current]
  | some schema =>
      cases result : edit.apply schema <;>
        simp [run_demandSchema, run_install, current, result]

/-- What an answer leaves of a workspace is in closed form. -/
theorem run_accept (answer : Except WorkspaceError GenerationResponse) :
    (Workspace.accept now answer : Step m Unit).run.run workspace =
      pure (workspace.settled now answer) := by
  cases answer with
  | error error => simp [Workspace.accept, Workspace.settled]
  | ok response =>
      cases result : response.result <;>
        simp [Workspace.accept, Workspace.settled, run_install, result]

/-- A generator is asked once for a new schema. -/
theorem run_generate (ask : GenerationRequest → m (Except WorkspaceError GenerationResponse))
    (request : GenerationRequest) :
    (Workspace.generate now ask request : Step m Unit).run.run workspace =
      ask request >>= fun answer => pure (workspace.settled now answer) := by
  simp [Workspace.generate, run_accept]

/-- A generator is asked once to refine the current schema, and not at all without one. -/
theorem run_refine (ask : RefinementRequest → m (Except WorkspaceError GenerationResponse))
    (instruction : String) :
    (Workspace.refine now ask instruction : Step m Unit).run.run workspace =
      match workspace.schema? with
      | none => pure (.error .noSchema, workspace)
      | some schema =>
        ask ⟨schema, instruction⟩ >>= fun answer => pure (workspace.settled now answer) := by
  unfold Workspace.refine
  cases current : workspace.schema? <;> simp [run_demandSchema, run_accept, current]

end Steps

section Outcomes

variable (now : Timestamp) (workspace : Workspace)

/-- An action fails and changes nothing, drops the schema, or loads one. -/
theorem outcome_cases (action : Action) :
    (∃ error, action.outcome now workspace = (.error error, workspace))
      ∨ action.outcome now workspace = (.ok (), workspace.clear)
      ∨ ∃ schema, action.outcome now workspace = (.ok (), workspace.load now schema) := by
  have settled (answer : Except WorkspaceError GenerationResponse) :
      (∃ error, workspace.settled now answer = (.error error, workspace))
        ∨ ∃ schema, workspace.settled now answer = (.ok (), workspace.load now schema) := by
    unfold Workspace.settled
    split
    case h_1 error => exact .inl ⟨error, rfl⟩
    case h_2 response =>
      split
      case h_1 schema _ => exact .inr ⟨schema, rfl⟩
      case h_2 fault _ => exact .inl ⟨.generation fault, rfl⟩
  unfold Action.outcome Action.step
  cases action with
  | load schema =>
      dsimp only
      rw [run_install]
      exact .inr (.inr ⟨schema, rfl⟩)
  | clear =>
      dsimp only
      rw [run_step_modify]
      exact .inr (.inl rfl)
  | apply edit =>
      dsimp only
      rw [run_apply]
      cases workspace.schema? with
      | none => exact .inl ⟨.noSchema, rfl⟩
      | some schema =>
          dsimp only
          cases edit.apply schema with
          | error error => exact .inl ⟨.edit error, rfl⟩
          | ok changed => exact .inr (.inr ⟨_, rfl⟩)
  | generate ask request =>
      dsimp only
      rw [run_generate]
      exact (settled (ask request)).imp_right .inr
  | refine ask instruction =>
      dsimp only
      rw [run_refine]
      cases workspace.schema? with
      | none => exact .inl ⟨.noSchema, rfl⟩
      | some schema => exact (settled (ask ⟨schema, instruction⟩)).imp_right .inr

/-- An action that fails changes nothing. -/
theorem unchanged_of_failed {action : Action} {error : WorkspaceError} {next : Workspace}
    (failed : action.outcome now workspace = (.error error, next)) : next = workspace := by
  rcases outcome_cases now workspace action with ⟨_, same⟩ | same | ⟨_, same⟩
  · exact (Prod.mk.inj (same.symm.trans failed)).2.symm
  · simp [same] at failed
  · simp [same] at failed

variable {now workspace}

/-- A workspace stays coherent when an action changes it. -/
theorem coherent_of_changed {options : Sql.Options} {time : Timestamp} {action : Action}
    {next : Workspace} (coherent : workspace.Coherent options time)
    (done : action.outcome now workspace = (.ok (), next)) : next.Coherent options now := by
  rcases outcome_cases now workspace action with ⟨_, same⟩ | same | ⟨schema, same⟩
  · simp [same] at done
  · obtain ⟨-, rfl⟩ := Prod.mk.inj (same.symm.trans done)
    refine ⟨coherent.keeps, rfl, fun schema current => ?_⟩
    simp [Workspace.clear, Workspace.schema?] at current
  · obtain ⟨-, rfl⟩ := Prod.mk.inj (same.symm.trans done)
    refine ⟨coherent.keeps, rfl, fun loaded current => ?_⟩
    obtain rfl : schema = loaded := by simpa [Workspace.load, Workspace.schema?] using current
    simp [Workspace.load, Workspace.outputs?, coherent.keeps]

/-- Every workspace that is reached is coherent. -/
theorem Reached.coherent {options : Sql.Options} {time : Timestamp}
    (reached : Reached options time workspace) : workspace.Coherent options time := by
  induction reached with
  | start =>
      refine ⟨rfl, rfl, fun schema current => ?_⟩
      simp [Workspace.empty, Workspace.schema?] at current
  | changed reached done inductionHypothesis => exact coherent_of_changed inductionHypothesis done
  | failed reached failed inductionHypothesis =>
      rw [unchanged_of_failed _ _ failed]
      exact inductionHypothesis

end Outcomes

section Answers

/-- The schema of an answer is there exactly when the answer reports success and carries it. -/
theorem result_eq_ok_iff {response : GenerationResponse} {schema : Schema} :
    response.result = .ok schema ↔ response.success = true ∧ response.schema = some schema := by
  unfold GenerationResponse.result
  cases response.success with
  | true => cases response.schema <;> simp
  | false =>
      cases response.error <;> simp

/-- What an answer is refused for is never without words. -/
theorem reason_of_result {response : GenerationResponse} {fault : GenerationFault}
    (refused : response.result = .error fault) : Text.isBlankText fault.reason = false := by
  unfold GenerationResponse.result at refused
  split at refused
  · simp at refused
  · obtain rfl := Except.error.inj refused
    decide
  · split at refused
    case h_1 reason _ =>
      obtain rfl := Except.error.inj refused
      split
      · decide
      case isFalse given => simpa [GenerationFault.reason] using given
    case h_2 =>
      obtain rfl := Except.error.inj refused
      decide

/-- What an answer leaves of a workspace is what it asks for. -/
theorem settles_settled (now : Timestamp) (workspace : Workspace)
    (answer : Except WorkspaceError GenerationResponse) :
    Settles answer (workspace.settled now answer) := by
  cases answer with
  | error error =>
      exact ⟨by simp [Workspace.settled], by simp,
        fun _ same => .inl (by simpa [Workspace.settled] using same)⟩
  | ok response =>
      cases result : response.result with
      | ok schema =>
          obtain ⟨success, carried⟩ := result_eq_ok_iff.1 result
          refine ⟨by simp [Workspace.settled, result, success, carried], ?_,
            by simp [Workspace.settled, result]⟩
          rintro _ other ⟨rfl⟩ - same
          rw [carried] at same
          simpa [Workspace.settled, result, Workspace.load, Workspace.schema?] using same
      | error fault =>
          have none (schema : Schema) :
              ¬(response.success = true ∧ response.schema = some schema) := fun carried => by
            rw [← result_eq_ok_iff, result] at carried
            simp at carried
          refine ⟨?_, ?_, ?_⟩
          · simp only [Workspace.settled, result, reduceCtorEq, false_iff]
            rintro ⟨_, schema, ⟨rfl⟩, success, carried⟩
            exact none schema ⟨success, carried⟩
          · rintro _ schema ⟨rfl⟩ success carried
            exact absurd ⟨success, carried⟩ (none schema)
          · intro error same
            simp only [Workspace.settled, result, Except.error.injEq] at same
            exact .inr ⟨fault, same.symm, reason_of_result result⟩

end Answers

/-- Whatever is done with an empty workspace, its texts always belong to its schema, and what fails
changes nothing. A generator that is asked for a schema, or to refine the one that there is,
decides alone whether that succeeds; to refine it is asked exactly once, with the current schema and
the instruction, and without a schema it is not asked at all. -/
theorem workspace_stays_coherent (options : Sql.Options) :
    (∀ time workspace, Reached options time workspace → workspace.Coherent options time)
      ∧ (∀ (action : Action) now workspace error next,
        action.outcome now workspace = (.error error, next) → next = workspace)
      ∧ (∀ ask request now workspace,
        Settles (ask request) ((Action.generate ask request).outcome now workspace))
      ∧ (∀ ask instruction now workspace schema, workspace.schema? = some schema →
        Settles (ask ⟨schema, instruction⟩)
          ((Action.refine ask instruction).outcome now workspace))
      ∧ ∀ (m : Type → Type) [Monad m] [LawfulMonad m]
        (ask : RefinementRequest → m (Except WorkspaceError GenerationResponse))
        (instruction : String) (now : Timestamp) (workspace : Workspace),
        (Workspace.refine now ask instruction).run.run workspace =
          match workspace.schema? with
          | none => pure (.error .noSchema, workspace)
          | some schema =>
            ask ⟨schema, instruction⟩ >>= fun answer => pure (workspace.settled now answer) := by
  refine ⟨fun _ _ reached => reached.coherent, fun _ now workspace _ _ failed =>
    unchanged_of_failed now workspace failed, ?_, ?_, ?_⟩
  · intro ask request now workspace
    have outcome : (Action.generate ask request).outcome now workspace =
        workspace.settled now (ask request) :=
      congrArg Id.run (run_generate (m := Id) now workspace ask request)
    rw [outcome]
    exact settles_settled now workspace (ask request)
  · intro ask instruction now workspace schema current
    have outcome : (Action.refine ask instruction).outcome now workspace =
        workspace.settled now (ask ⟨schema, instruction⟩) := by
      have run := congrArg Id.run (run_refine (m := Id) now workspace ask instruction)
      rwa [current] at run
    rw [outcome]
    exact settles_settled now workspace _
  · intro m _ _ ask instruction now workspace
    exact run_refine now workspace ask instruction

/-- A schema that is loaded, edited in vain and then renamed is compiled at the time of the
renaming; an answer that reports success without a schema changes nothing; and the generator is
asked to refine what it was renamed to. -/
theorem workspace_stays_coherent_when_renamed :
    let first : Timestamp := ⟨2024, 1, 28, 12, 0, 0, 0⟩
    let second : Timestamp := ⟨2024, 1, 28, 12, 0, 1, 0⟩
    let schema := Schema.empty "1" "shop" .mysql first
    let renamed := { schema with name := "store", updatedAt := second }
    let silent : GenerationResponse := ⟨true, none, none⟩
    let workspace := (Workspace.empty .standard).load second renamed
    let ask (request : RefinementRequest) :
        StateM (List RefinementRequest) (Except WorkspaceError GenerationResponse) :=
      modifyGet fun asked => (.ok silent, asked ++ [request])
    Reached .standard second workspace ∧ workspace.Coherent .standard second
      ∧ Settles (.ok silent)
        ((Action.refine (fun _ => .ok silent) "again").outcome second workspace)
      ∧ (Workspace.refine second ask "again").run.run workspace [] =
        ((.error (.generation .missingSchema), workspace), [⟨renamed, "again"⟩]) := by
  intro first second schema renamed silent workspace ask
  obtain ⟨coherent, -, -, settles, asks⟩ := workspace_stays_coherent .standard
  have load : (Action.load schema).outcome first (.empty .standard) =
      (.ok (), (Workspace.empty .standard).load first schema) := rfl
  have remove : (Action.apply (.removeTable "2")).outcome first
      ((Workspace.empty .standard).load first schema) =
      (.error (.edit (.notFound .table "2")), (Workspace.empty .standard).load first schema) := rfl
  have rename : (Action.apply (.rename "store")).outcome second
      ((Workspace.empty .standard).load first schema) = (.ok (), workspace) := rfl
  have reached : Reached .standard second workspace :=
    .changed (.failed (.changed (.start first) load) remove) rename
  refine ⟨reached, coherent _ _ reached,
    settles (fun _ => .ok silent) "again" second workspace renamed rfl, ?_⟩
  rw [asks]
  rfl

end DbSchema
