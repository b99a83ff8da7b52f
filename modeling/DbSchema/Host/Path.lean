/-!
# Paths

Paths of files as texts with slashes: joining them, and the directories around the place that a path
leads to.
-/

namespace DbSchema.Path

/-- A name inside a directory. An absolute name stands for itself. -/
def join (directory name : String) : String :=
  if name.startsWith "/" || directory == "" then name
  else if directory.endsWith "/" then directory ++ name
  else directory ++ "/" ++ name

/-- The parts of a path between its slashes. -/
def parts (path : String) : List String :=
  (path.toList.splitOn '/').map .ofList

/-- The parts that lead anywhere: empty parts and single dots do not, except for a dot in front. -/
def components (path : String) : List String :=
  match parts path with
  | [] => []
  | first :: rest =>
    (if first == "" then [] else [first]) ++ rest.filter fun part => part != "" && part != "."

/-- The non-empty starts of a list, longest first. -/
def starts : List String → List (List String)
  | [] => []
  | first :: rest => (starts rest).map (first :: ·) ++ [[first]]

/-- The directories around the place that a path leads to, the nearest first. A relative path starts
in the directory with the empty path. -/
def parents (path : String) : List String :=
  let around := (starts (components path)).drop 1
  if path.startsWith "/" then
    around.map (fun names => "/" ++ "/".intercalate names)
      ++ (if (components path).isEmpty then [] else ["/"])
  else around.map ("/".intercalate ·) ++ [""]

end DbSchema.Path
