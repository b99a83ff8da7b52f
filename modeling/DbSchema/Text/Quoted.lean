/-!
# Quoted texts

A text between two quote characters, with each quote character inside it written twice. Main
statement: reading a quoted text gives back the text and whatever follows it, provided that what
follows does not start with the same quote character.
-/

namespace DbSchema.Text

/-- The characters with every quote character doubled. -/
def doubled (quote : Char) : List Char → List Char
  | [] => []
  | character :: rest =>
    if character = quote then quote :: quote :: doubled quote rest
    else character :: doubled quote rest

/-- The text between quote characters. -/
def quoteWith (quote : Char) (text : String) : String :=
  .ofList (quote :: (doubled quote text.toList ++ [quote]))

/-- The text as a string literal, between single quotes. -/
def quoteLiteral (text : String) : String :=
  quoteWith '\'' text

/-- Reads up to the first quote character that is not doubled: the text read and what follows the
closing quote, or nothing if the closing quote is missing. -/
def readDoubled (quote : Char) : List Char → Option (List Char × List Char)
  | [] => none
  | [character] => if character = quote then some ([], []) else none
  | character :: next :: rest =>
    if character = quote then
      if next = quote then (readDoubled quote rest).map fun found => (quote :: found.1, found.2)
      else some ([], next :: rest)
    else (readDoubled quote (next :: rest)).map fun found => (character :: found.1, found.2)

/-- Reads a quoted text at the start of the characters. -/
def readQuoted (quote : Char) : List Char → Option (List Char × List Char)
  | [] => none
  | character :: rest => if character = quote then readDoubled quote rest else none

/-- The characters of a quoted text. -/
@[simp] theorem toList_quoteWith (quote : Char) (text : String) :
    (quoteWith quote text).toList = quote :: (doubled quote text.toList ++ [quote]) := by
  simp [quoteWith]

/-- Doubled characters are read up to the closing quote character, if another one does not follow
it. -/
theorem readDoubled_doubled {quote : Char} (text : List Char) {rest : List Char}
    (ends : rest.head? ≠ some quote) :
    readDoubled quote (doubled quote text ++ quote :: rest) = some (text, rest) := by
  induction text with
  | nil =>
    cases rest with
    | nil => simp [doubled, readDoubled]
    | cons next rest =>
      have other : next ≠ quote := by simpa using ends
      simp [doubled, readDoubled, other]
  | cons character text inductionHypothesis =>
    by_cases same : character = quote
    · simp [doubled, same, readDoubled, inductionHypothesis]
    · cases behind : doubled quote text ++ quote :: rest with
      | nil => simp at behind
      | cons next others =>
        rw [behind] at inductionHypothesis
        simp [doubled, same, readDoubled, behind, inductionHypothesis]

/-- Reading a quoted text gives back the text and what follows it, if another quote character does
not follow it. -/
theorem readQuoted_quoteWith {quote : Char} (text : String) {rest : List Char}
    (ends : rest.head? ≠ some quote) :
    readQuoted quote ((quoteWith quote text).toList ++ rest) = some (text.toList, rest) := by
  simp [readQuoted, readDoubled_doubled text.toList ends]

end DbSchema.Text
