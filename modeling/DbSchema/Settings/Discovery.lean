import DbSchema.Host.Basic
import DbSchema.Settings.Basic

/-!
# Finding the settings

Which settings file counts: one that is named explicitly, else the one in the project's directory,
else the one of the user. Without any the standard settings hold, but a file that is named has to be
there.
-/

namespace DbSchema

/-- Why there are no settings. -/
inductive SettingsError where
  | unreadable (path : String) (error : IoError)
  | malformed (fault : SettingsFault)
  deriving DecidableEq, Repr

namespace Settings

variable {m : Type → Type} [Monad m]

/-- The name of the settings file in a directory. -/
def fileName : String := "schemaforge.toml"

/-- Reads a settings file. -/
def load (host : Host m) (path : String) : m (Except SettingsError Settings) := do
  match ← host.readText path with
  | .error error => return .error (.unreadable path error)
  | .ok text =>
    match ofText? text with
    | .ok settings => return .ok settings
    | .error fault => return .error (.malformed fault)

/-- Finds and reads the settings file that counts. -/
def discover (host : Host m) (explicit : Option String) (directory : String)
    (user : Option String) : m (Except SettingsError Settings) := do
  match explicit with
  | some path => load host path
  | none =>
    let project := Path.join directory fileName
    if ← host.pathExists project then load host project
    else
      match user with
      | none => return .ok standard
      | some path => if ← host.pathExists path then load host path else return .ok standard

end Settings

end DbSchema
