import DbSchema.Cli.Run
import Std.Time.DateTime.Timestamp

/-!
# The program

The outermost layer of the command line program: files, environment, clock and random numbers of the
machine. Everything else is decided by `Cli.run`.
-/

namespace DbSchema.Machine

/-- The number of the operating system in an error. -/
def errorCode : IO.Error → Nat
  | .alreadyExists _ code _ | .inappropriateType _ code _ | .permissionDenied _ code _
  | .invalidArgument _ code _ => code.toNat
  | .noFileOrDirectory _ code _ => code.toNat
  | .otherError code _ => code.toNat
  | _ => 0

/-- An error of the machine. -/
def errorOf (error : IO.Error) : IoError :=
  (IoError.ofCode? (errorCode error)).getD (.other (toString error))

/-- Does an operation and keeps its error. -/
def attempt {α : Type} (path : String) (operation : IO α) : IO (Except IoError α) := do
  if path.toList.any (· = '\x00') then return .error .nulInPath
  try return .ok (← operation) catch error => return .error (errorOf error)

/-- Reads a file as text. -/
def readText (path : String) : IO (Except IoError String) := do
  match ← attempt path (IO.FS.readBinFile path) with
  | .error error => return .error error
  | .ok bytes =>
    match String.fromUTF8? bytes with
    | some text => return .ok text
    | none => return .error .notUnicode

/-- Whether a path leads to anything. -/
def leadsSomewhere (path : String) : IO Bool := do
  if path == "" then return false
  match ← attempt path (IO.FS.realPath path) with
  | .ok _ => return true
  | .error _ => return false

/-- The files of the machine. -/
def host : Host IO where
  readText := readText
  writeText path contents := attempt path (IO.FS.writeFile path contents)
  makeDirectory path := attempt path (IO.FS.createDir path)
  pathExists := leadsSomewhere
  isDirectory path := leadsSomewhere (path ++ "/.")

/-- The settings file of the user. -/
def userSettings : IO (Option String) := do
  let home := (← IO.getEnv "HOME").filter fun path => path != ""
  let given := (← IO.getEnv "XDG_CONFIG_HOME").filter fun path => path.startsWith "/"
  let directory := given.or (home.map fun path => Path.join path ".config")
  return directory.map fun path => Path.join (Path.join path "schemaforge") "config.toml"

/-- Whether output is styled: the environment may force or forbid it, and otherwise a terminal
decides. -/
def isColored : IO Bool := do
  let isOn (value : Option String) : Bool := value.any fun text => text != "0"
  if isOn (← IO.getEnv "CLICOLOR_FORCE") then return true
  if (← IO.getEnv "NO_COLOR").isSome then return false
  return isOn ((← IO.getEnv "CLICOLOR").or (some "1")) && (← (← IO.getStdout).isTty)

/-- Identifiers from a random number, and the time of the clock. -/
def supply : IO Supply := do
  let bytes ← IO.getRandomBytes 16
  let number := bytes.toList.foldl (fun number byte => number * 256 + byte.toNat) 0
  let clock ← Std.Time.Timestamp.now
  let nanoseconds := clock.toNanosecondsSinceUnixEpoch.toInt
  return .startingAt number
    (.ofSeconds (nanoseconds / 1000000000) (nanoseconds % 1000000000).toNat)

end DbSchema.Machine

/-- Runs the program on the machine. -/
def main (arguments : List String) : IO UInt32 := do
  let environment : DbSchema.Cli.Environment :=
    ⟨← IO.getEnv "SCHEMAFORGE_CONFIG", ← DbSchema.Machine.userSettings,
      ← DbSchema.Machine.isColored, ← DbSchema.Machine.supply⟩
  let outcome ← DbSchema.Cli.run DbSchema.Machine.host environment arguments
  IO.print outcome.output
  IO.eprint outcome.messages
  return outcome.code
