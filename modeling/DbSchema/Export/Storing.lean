import DbSchema.Export.Artifact
import DbSchema.Host.Basic

/-!
# Storing artifacts

Writing an artifact into a directory of a host, which has to be there.
-/

namespace DbSchema.Artifact

/-- Writes an artifact into a directory: the path of the file, or why it could not be written. -/
def writeInto {m : Type → Type} [Monad m] (host : Host m) (directory : String)
    (artifact : Artifact) : m (Except IoError String) := do
  let path := Path.join directory artifact.fileName
  return (← host.writeText path artifact.contents).map fun () => path

end DbSchema.Artifact
