import DbSchema.Diagram.Text
import DbSchema.Export.Artifact
import DbSchema.Generation.Exchange
import DbSchema.Sql.Script
import DbSchema.Workspace.Edit

/-!
# Workspaces

A workspace holds at most one schema, together with the texts compiled from it. Whatever changes the
schema compiles it first, so that the texts always belong to the schema; a step that fails does so
before it changes anything.
-/

namespace DbSchema

/-- The texts compiled from a schema. -/
structure Outputs where
  sql : String
  diagram : String
  deriving DecidableEq, Repr

/-- Why a step of a workspace failed. -/
inductive WorkspaceError where
  | noSchema
  | edit (error : EditError)
  | generation (fault : GenerationFault)
  | unreadable (error : Json.ReadError)
  deriving DecidableEq, Repr

/-- The text of the error. -/
def WorkspaceError.message : WorkspaceError → String
  | noSchema => "No schema loaded"
  | edit error => error.message
  | generation fault => "Generation failed: " ++ fault.reason
  | unreadable error => "JSON error: " ++ error.message

/-- A schema with the texts compiled from it. -/
structure Compiled where
  schema : Schema
  outputs : Outputs
  deriving DecidableEq, Repr

/-- A workspace: the options that schemas are compiled with, and the current schema if there is
one. -/
structure Workspace where
  options : Sql.Options
  current : Option Compiled
  deriving DecidableEq, Repr

/-- A step of a workspace, which may change it and may fail. What a step asks for outside of the
workspace happens in `m`. -/
abbrev Step (m : Type → Type) :=
  ExceptT WorkspaceError (StateT Workspace m)

namespace Workspace

/-- The workspace without a schema. -/
def empty (options : Sql.Options) : Workspace :=
  ⟨options, none⟩

/-- The current schema. -/
def schema? (workspace : Workspace) : Option Schema :=
  workspace.current.map Compiled.schema

/-- The texts of the current schema. -/
def outputs? (workspace : Workspace) : Option Outputs :=
  workspace.current.map Compiled.outputs

/-- Makes a schema the current one and compiles it, at the given time. -/
def load (workspace : Workspace) (now : Timestamp) (schema : Schema) : Workspace :=
  { workspace with
    current := some
      ⟨schema, Sql.compile workspace.options now schema, Diagram.compile schema⟩ }

/-- Drops the current schema. -/
def clear (workspace : Workspace) : Workspace :=
  { workspace with current := none }

section Steps

variable {m : Type → Type} [Monad m]

/-- The current schema, or the error that there is none. -/
def demandSchema : Step m Schema := do
  match (← get).schema? with
  | some schema => return schema
  | none => throw .noSchema

/-- Makes a schema the current one, at the given time. -/
def install (now : Timestamp) (schema : Schema) : Step m Unit :=
  modify fun workspace => workspace.load now schema

/-- Edits the current schema, which is thereby updated at the given time. An edit reads the clock
twice, for the update and then for the compilation; one time stands for both here, and only the line
of the script that tells the time could show them apart. -/
def apply (now : Timestamp) (edit : Edit) : Step m Unit := do
  let schema ← demandSchema
  match edit.apply schema with
  | .ok changed => install now { changed with updatedAt := now }
  | .error error => throw (.edit error)

/-- Installs the schema of an answer. -/
def accept (now : Timestamp) (answer : Except WorkspaceError GenerationResponse) :
    Step m Unit := do
  match answer with
  | .error error => throw error
  | .ok response =>
    match response.result with
    | .ok schema => install now schema
    | .error fault => throw (.generation fault)

/-- Asks a generator for a new schema. -/
def generate (now : Timestamp)
    (ask : GenerationRequest → m (Except WorkspaceError GenerationResponse))
    (request : GenerationRequest) : Step m Unit := do
  let answer ← liftM (ask request)
  accept now answer

/-- Asks a generator to refine the current schema. Without one the generator is not asked. -/
def refine (now : Timestamp)
    (ask : RefinementRequest → m (Except WorkspaceError GenerationResponse))
    (instruction : String) : Step m Unit := do
  let schema ← demandSchema
  let answer ← liftM (ask ⟨schema, instruction⟩)
  accept now answer

end Steps

/-- The current schema or one of its texts as an artifact. -/
def artifact (workspace : Workspace) (format : ExportFormat) : Except WorkspaceError Artifact :=
  match workspace.current with
  | none => .error .noSchema
  | some compiled =>
    let contents :=
      match format with
      | .sql => compiled.outputs.sql
      | .diagram => compiled.outputs.diagram
      | .json => compiled.schema.toJson.prettyText
    .ok (.named compiled.schema.name format contents)

end Workspace

end DbSchema
