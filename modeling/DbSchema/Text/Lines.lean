import DbSchema.Text.Blank

/-!
# Lines

A text is cut into lines at its line feeds. A carriage return directly before a line feed belongs to
the line end; every other carriage return, also one at the very end of the text, is kept.
-/

namespace DbSchema.Text

/-- A line without the carriage return that ends it, if one does. -/
def dropCarriageReturn (line : List Char) : List Char :=
  if line.getLast? = some '\r' then line.dropLast else line

/-- The lines of a text given by the stretches between its line feeds. Every stretch but the last
was ended by a line feed, and an empty last stretch is no line. -/
def linesOfStretches : List (List Char) → List (List Char)
  | [] => []
  | [last] => if last.isEmpty then [] else [last]
  | line :: rest => dropCarriageReturn line :: linesOfStretches rest

/-- The lines of a text, without their line ends. -/
def lines (text : String) : List String :=
  (linesOfStretches (text.toList.splitOn '\n')).map .ofList

/-- The text on one line, a space standing for each line end inside it. -/
def onOneLine (text : String) : String :=
  " ".intercalate (lines text)

end DbSchema.Text
