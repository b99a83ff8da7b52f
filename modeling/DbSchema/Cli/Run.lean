import DbSchema.Cli.Arguments
import DbSchema.Cli.Style
import DbSchema.Export.Storing
import DbSchema.Settings.Discovery
import DbSchema.Workspace.Basic

/-!
# Running the program

The commands of the program on the files of a host. A run ends with an exit code and what it writes
to its two outputs; the first error ends it.
-/

namespace DbSchema.Cli

/-- What a run depends on beside its arguments: the settings file that the environment names, the
settings file of the user, whether output is styled, and the source of identifiers and time. -/
structure Environment where
  settingsPath : Option String
  userSettings : Option String
  colored : Bool
  supply : Supply

/-- How a run ended. -/
structure Outcome where
  code : UInt32
  output : String
  messages : String

/-- Why a run failed. -/
inductive RunError where
  | settings (error : SettingsError)
  | unreadable (path : String) (error : IoError)
  | notSchema (path : String) (error : Json.ReadError)
  | unwritable (path : String) (error : IoError)
  | notMade (path : String) (error : IoError)
  | workspace (error : WorkspaceError)
  | artifact (error : IoError)
  deriving DecidableEq, Repr

/-- What is put in front of a fault in a settings file. -/
def malformedSettings : String := "TOML error: TOML parse error"

/-- The text of the error, with its causes. -/
def RunError.message : RunError → String
  | settings (.unreadable path error) =>
    "Configuration error: failed to read '" ++ path ++ "': " ++ error.message
  | settings (.malformed fault) => malformedSettings ++ ": " ++ fault.message
  | unreadable path error => "failed to read '" ++ path ++ "': " ++ error.message
  | notSchema path error => "'" ++ path ++ "' is not a valid schema: " ++ error.message
  | unwritable path error => "failed to write '" ++ path ++ "': " ++ error.message
  | notMade path error => "failed to create '" ++ path ++ "': " ++ error.message
  | workspace error => error.message
  | artifact error => "IO error: " ++ error.message ++ ": " ++ error.message

/-- The text that a run has written so far. -/
structure Written where
  output : String
  messages : String

variable {m : Type → Type} [Monad m]

/-- A part of a run: it adds to what was written, and may fail. -/
abbrev Run (m : Type → Type) := ExceptT RunError (StateT Written m)

namespace Run

/-- Writes to the output. -/
def print (text : String) : Run m Unit :=
  modify fun written => { written with output := written.output ++ text }

/-- Writes to the messages. -/
def report (text : String) : Run m Unit :=
  modify fun written => { written with messages := written.messages ++ text }

/-- Does a file operation; `failure` tells what its error means for the run. -/
def file {α : Type} (failure : IoError → RunError) (operation : m (Except IoError α)) :
    Run m α := do
  match ← operation with
  | .ok value => pure value
  | .error error => throw (failure error)

/-- Goes on with a result unless it is an error. -/
def orFail {ε α : Type} (failure : ε → RunError) : Except ε α → Run m α
  | .ok value => pure value
  | .error error => throw (failure error)

/-- Reads the schema in a file. -/
def readSchema (host : Host m) (supply : Supply) (path : String) : Run m Schema := do
  let text ← file (.unreadable path) (host.readText path)
  let (schema, _) ← orFail (.notSchema path) ((Json.readText Schema.shape.read text).run supply)
  pure schema

/-- The mark in front of a file that was written. -/
def tick (colored : Bool) : String :=
  styled colored .success "✓"

/-- Writes a text to a file, or to the output if no file is named. -/
def emit (host : Host m) (colored : Bool) (text : String) : Option String → Run m Unit
  | none => print text
  | some path => do
    file (.unwritable path) (host.writeText path text)
    report (tick colored ++ " Wrote " ++ styled colored .item path ++ "\n")

/-- Writes the artifacts of a workspace into a directory, and tells their paths. -/
def store (host : Host m) (colored : Bool) (workspace : Workspace) (directory : String) :
    List ExportFormat → Run m Unit
  | [] => pure ()
  | format :: formats => do
    let artifact ← orFail .workspace (workspace.artifact format)
    let path ← file .artifact (artifact.writeInto host directory)
    print (tick colored ++ " " ++ styled colored .item path ++ "\n")
    store host colored workspace directory formats

end Run

/-- The words for a column type in the table of types. -/
def typeCell (dialect : Dialect) (type : ColumnType) : String :=
  if type = .enum then
    (if dialect.declaresEnums then "CREATE TYPE ... AS ENUM" else "ENUM(...)")
      ++ " / " ++ dialect.emptyEnumType
  else dialect.scalarType type none none none

/-- The table of all column types in some dialects. -/
def typeTable (colored : Bool) (dialects : List Dialect) : String :=
  let heading := styled colored .heading (padded 14 "Type")
    ++ String.join (dialects.map fun dialect =>
      " " ++ styled colored .heading (padded 26 dialect.label))
  let rule := styled colored .faint (.ofList (List.replicate (14 + 27 * dialects.length) '─'))
  let row (type : ColumnType) : String :=
    styled colored .item (padded 14 type.tag)
      ++ String.join (dialects.map fun dialect => " " ++ padded 26 (typeCell dialect type)) ++ "\n"
  heading ++ "\n" ++ rule ++ "\n" ++ String.join (ColumnType.all.map row)

/-- Runs a command under the settings. -/
def runCommand (host : Host m) (environment : Environment) (settings : Settings) :
    Command → Run m Unit
  | .sql path dialect timestamp output => do
    let options : Sql.Options :=
      ⟨settings.timestamp && timestamp, dialect.or settings.dialect⟩
    let schema ← Run.readSchema host environment.supply path
    Run.emit host environment.colored (Sql.compile options environment.supply.now schema) output
  | .diagram path output => do
    let schema ← Run.readSchema host environment.supply path
    Run.emit host environment.colored (Diagram.compile schema) output
  | .store path directory formats => do
    let directory := directory.getD settings.directory
    let schema ← Run.readSchema host environment.supply path
    Run.file (.notMade directory) (host.makeDirectories directory)
    let workspace := (Workspace.empty settings.options).load environment.supply.now schema
    Run.store host environment.colored workspace directory formats
  | .create name dialect =>
    let (id, supply) := environment.supply.freshId
    Run.print ((Schema.empty id name dialect supply.now).toJson.prettyText ++ "\n")
  | .types dialects => Run.print (typeTable environment.colored dialects)

/-- Runs a command: finds the settings first. -/
def runWith (host : Host m) (environment : Environment) (settingsPath : Option String)
    (command : Command) : Run m Unit := do
  let found : m (Except SettingsError Settings) :=
    Settings.discover host settingsPath "." environment.userSettings
  let settings ← Run.orFail .settings (← found)
  runCommand host environment settings command

/-- The program's name and version. -/
def versionText : String := "schemaforge 0.3.0\n"

/-- How the program is used. -/
def usageText : String :=
  "Compile schema IR to SQL DDL and ER diagrams\n\n"
    ++ "Usage: schemaforge [-v] [--config <CONFIG>] <COMMAND>\n\n"
    ++ "Commands:\n"
    ++ "  sql      Compile a schema file to SQL DDL\n"
    ++ "  diagram  Compile a schema file to a Mermaid ER diagram\n"
    ++ "  export   Write export artifacts next to each other\n"
    ++ "  new      Print an empty schema skeleton as JSON\n"
    ++ "  types    Show how logical column types map to a dialect\n"

/-- Runs the program with arguments. -/
def run (host : Host m) (environment : Environment) (arguments : List String) : m Outcome := do
  match requestOf environment.settingsPath arguments with
  | .version => return ⟨0, versionText, ""⟩
  | .help => return ⟨0, usageText, ""⟩
  | .misuse => return ⟨2, "", usageText⟩
  | .run settingsPath command =>
    let (result, written) ← (runWith host environment settingsPath command).run.run ⟨"", ""⟩
    match result with
    | .ok () => return ⟨0, written.output, written.messages⟩
    | .error error =>
      let alarm := styled environment.colored .alarm "Error:"
      return ⟨1, written.output, written.messages ++ alarm ++ " " ++ error.message ++ "\n"⟩

end DbSchema.Cli
