import DbSchema.Schema.Vocabulary
import DbSchema.Text.Blank
import DbSchema.Text.Case

/-!
# Export artifacts

A text to be stored under a file name, which comes from the name of the schema and the format.
-/

namespace DbSchema

/-- A text with the name of the file that it belongs into. -/
structure Artifact where
  fileName : String
  contents : String
  deriving DecidableEq, Repr

namespace Artifact

/-- Letters and digits as they are, and one underscore for every stretch of other characters. `gap`
tells that such a stretch has begun. -/
def underscored (gap : Bool) : List Char → List Char
  | [] => []
  | character :: rest =>
    if character.isAlphanum then character :: underscored false rest
    else if gap then underscored true rest
    else '_' :: underscored true rest

/-- The file name for a schema name, without its extension: in lower case, without underscores at
either end, and never empty. -/
def fileStem (name : String) : String :=
  let isUnderscore (character : Char) : Bool := character = '_'
  let joined := underscored false (Text.toLower name).toList
  match Text.dropTrailing isUnderscore (joined.dropWhile isUnderscore) with
  | [] => "schema"
  | stem => .ofList stem

/-- The artifact of a schema name and a format. -/
def named (schemaName : String) (format : ExportFormat) (contents : String) : Artifact :=
  ⟨fileStem schemaName ++ "." ++ format.extension, contents⟩

end Artifact

end DbSchema
