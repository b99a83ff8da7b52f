import DbSchema.Host.Basic

/-!
# File trees

A tree of files and directories as a value, with the file operations of a host on it. Paths are
relative to the root of the tree, or start with the absolute path that the root has; directories
above the root exist and are otherwise unknown.
-/

namespace DbSchema

/-- A file with its bytes, or a directory. -/
inductive FileEntry where
  | directory
  | file (bytes : ByteArray)

/-- A file tree: the path of its root, and an entry for every file and directory below it by the
names that lead to it. -/
structure Files where
  root : String
  entries : List (List String × FileEntry)

namespace Files

/-- What a place holds. The root and the directories above it are always there. -/
def entry? (files : Files) (place : List String) : Option FileEntry :=
  if place.all (· == "..") then some .directory else files.entries.lookup place

/-- Whether a place is a directory. -/
def isDirectoryAt (files : Files) (place : List String) : Bool :=
  match files.entry? place with
  | some .directory => true
  | _ => false

/-- Puts an entry at a place. -/
def put (files : Files) (place : List String) (entry : FileEntry) : Files :=
  { files with entries := (place, entry) :: files.entries.filter fun known => known.1 != place }

/-- The place one step away from a directory. -/
def stepTo (place : List String) (name : String) : List String :=
  if name == "" || name == "." then place
  else if name == ".." then
    if place.all (· == "..") then ".." :: place else place.dropLast
  else place ++ [name]

/-- Follows names from a place. All places on the way have to be directories; the last one may be
missing. -/
def follow (files : Files) (place : List String) : List String → Except IoError (List String)
  | [] => .ok place
  | name :: names =>
    match files.entry? place with
    | none => .error .notFound
    | some (.file _) => .error .notDirectory
    | some .directory =>
      if 255 < name.utf8ByteSize then .error .nameTooLong
      else follow files (stepTo place name) names

/-- The path from the root. An absolute path without names is that of a directory above the root. -/
def fromRoot (files : Files) (path : String) : Option String :=
  if files.root != "" && path.startsWith (files.root ++ "/") then
    some (path.drop (files.root.length + 1)).toString
  else if files.root != "" && path == files.root then some "."
  else if path.startsWith "/" then
    if (Path.parts path).all fun part => part == "" || part == "." || part == ".." then some ".."
    else none
  else some path

/-- The place that a path leads to. -/
def locate (files : Files) (path : String) : Except IoError (List String) :=
  if path == "" then .error .notFound
  else if path.toList.any (· = '\x00') then .error .nulInPath
  else if 4096 ≤ path.utf8ByteSize then .error .nameTooLong
  else
    match files.fromRoot path with
    | none => .error .notFound
    | some relative => files.follow [] (Path.parts relative)

/-- The path without the slashes at its end. -/
def withoutSlashes (path : String) : String :=
  let kept := (path.toList.reverse.dropWhile (· = '/')).reverse
  if kept.isEmpty then path else .ofList kept

/-- Reads a file as text. -/
def readText (files : Files) (path : String) : Except IoError String := do
  match files.entry? (← files.locate path) with
  | none => .error .notFound
  | some .directory => .error .isDirectory
  | some (.file bytes) =>
    match String.fromUTF8? bytes with
    | some text => .ok text
    | none => .error .notUnicode

/-- Writes a file, replacing what is there. -/
def writeText (files : Files) (path contents : String) : Except IoError Files := do
  let bare := withoutSlashes path
  let place ← files.locate bare
  match files.entry? place with
  | some .directory => .error .isDirectory
  | some (.file _) =>
    if bare != path then .error .notDirectory
    else .ok (files.put place (.file contents.toUTF8))
  | none =>
    if bare != path then .error .isDirectory
    else .ok (files.put place (.file contents.toUTF8))

/-- Makes a directory where nothing is. -/
def makeDirectory (files : Files) (path : String) : Except IoError Files := do
  let place ← files.locate (withoutSlashes path)
  match files.entry? place with
  | some _ => .error .alreadyExists
  | none => .ok (files.put place .directory)

/-- Whether a path leads to anything. -/
def pathExists (files : Files) (path : String) : Bool :=
  match files.locate path with
  | .ok place => (files.entry? place).isSome
  | .error _ => false

/-- Whether a path leads to a directory. -/
def isDirectory (files : Files) (path : String) : Bool :=
  match files.locate path with
  | .ok place => files.isDirectoryAt place
  | .error _ => false

/-- Keeps the changed files of an operation that succeeds. -/
def changing (operation : Files → Except IoError Files) : StateM Files (Except IoError Unit) :=
  fun files =>
    match operation files with
    | .ok changed => (.ok (), changed)
    | .error error => (.error error, files)

/-- The host whose files are a value. -/
def host : Host (StateM Files) where
  readText path := return (← get).readText path
  writeText path contents := changing fun files => files.writeText path contents
  makeDirectory path := changing fun files => files.makeDirectory path
  pathExists path := return (← get).pathExists path
  isDirectory path := return (← get).isDirectory path

/-- Adds an entry and the directories around it. -/
def plant (files : Files) (path : String) (entry : FileEntry) : Files :=
  let names := Path.components path
  let around := (Path.starts names).drop 1
  let withParents := around.foldr
    (fun place files => if files.isDirectoryAt place then files else files.put place .directory)
    files
  withParents.put names entry

end Files

end DbSchema
