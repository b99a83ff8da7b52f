import DbSchema.Host.Path

/-!
# Hosts

What the program needs from the machine it runs on: reading and writing files and making
directories. A host gives these operations in some monad, so that the program can run on files that
are a value as well as on those of a machine.
-/

namespace DbSchema

/-- Why a file operation failed. -/
inductive IoError where
  | notFound
  | denied
  | alreadyExists
  | notDirectory
  | isDirectory
  | nameTooLong
  | notUnicode
  | nulInPath
  | wholeTree
  | other (text : String)
  deriving DecidableEq, Repr

/-- The text of the error. -/
def IoError.message : IoError → String
  | notFound => "No such file or directory (os error 2)"
  | denied => "Permission denied (os error 13)"
  | alreadyExists => "File exists (os error 17)"
  | notDirectory => "Not a directory (os error 20)"
  | isDirectory => "Is a directory (os error 21)"
  | nameTooLong => "File name too long (os error 36)"
  | notUnicode => "stream did not contain valid UTF-8"
  | nulInPath => "file name contained an unexpected NUL byte"
  | wholeTree => "failed to create whole tree"
  | other text => text

/-- The error with a number of the operating system, where it has a case of its own. -/
def IoError.ofCode? (code : Nat) : Option IoError :=
  if code = 2 then some notFound
  else if code = 13 then some denied
  else if code = 17 then some alreadyExists
  else if code = 20 then some notDirectory
  else if code = 21 then some isDirectory
  else if code = 36 then some nameTooLong
  else none

/-- The file operations of a machine. -/
structure Host (m : Type → Type) where
  readText : (path : String) → m (Except IoError String)
  writeText : (path contents : String) → m (Except IoError Unit)
  makeDirectory : (path : String) → m (Except IoError Unit)
  pathExists : (path : String) → m Bool
  isDirectory : (path : String) → m Bool

namespace Host

variable {m : Type → Type} [Monad m]

/-- The outcome of making a directory at a path: one that is there already will do. -/
def unlessThere (host : Host m) (path : String) : Except IoError Unit → m (Except IoError Unit)
  | .ok () => return .ok ()
  | .error error => return if ← host.isDirectory path then .ok () else .error error

/-- Makes a directory whose surrounding directories, the nearest first, may have to be made first.
-/
def makeInside (host : Host m) (path : String) : List String → m (Except IoError Unit)
  | [] => do
    match ← host.makeDirectory path with
    | .error .notFound => return .error .wholeTree
    | outcome => host.unlessThere path outcome
  | parent :: further => do
    match ← host.makeDirectory path with
    | .error .notFound =>
      match ← if parent == "" then pure (.ok ()) else makeInside host parent further with
      | .error error => return .error error
      | .ok () => host.unlessThere path (← host.makeDirectory path)
    | outcome => host.unlessThere path outcome

/-- Makes a directory and all directories around it that are missing. The empty path is the
directory of the program, which is there. -/
def makeDirectories (host : Host m) (path : String) : m (Except IoError Unit) :=
  if path == "" then pure (.ok ()) else host.makeInside path (Path.parents path)

end Host

end DbSchema
