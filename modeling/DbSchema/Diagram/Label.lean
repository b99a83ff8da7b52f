import DbSchema.Text.Blank

/-!
# Names and labels in diagrams

A diagram takes only plain identifiers as names, and quoted labels without punctuation.
-/

namespace DbSchema.Diagram

/-- Whether a character may stand in an identifier. -/
def isIdentifierChar (character : Char) : Bool :=
  character.isAlphanum || character = '_'

/-- A name with an underscore in place of every character that may not stand in an identifier. The
empty name becomes an underscore. -/
def identifier (name : String) : String :=
  match name.toList with
  | [] => "_"
  | characters =>
    .ofList (characters.map fun character =>
      if isIdentifierChar character then character else '_')

/-- A label without punctuation: its words, with one space between each two. -/
def label (text : String) : String :=
  let kept := text.toList.filter fun character =>
    isIdentifierChar character || Text.isBlank character
  " ".intercalate ((Text.words kept).map .ofList)

end DbSchema.Diagram
