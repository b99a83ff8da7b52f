import DbSchema.Text.CaseTable

/-!
# Letter case

Full Unicode case conversion of texts: letters outside ASCII have their case too, some of them turn
into several characters, and a capital sigma at the end of a word becomes the final small sigma.
-/

namespace DbSchema.Text

/-- The counterparts of a code point: its expansion if it has one, else the code point that the run
covering it points at, else itself. -/
def counterparts (expansions : List (Nat × List Nat)) (runs : List LetterRun) (code : Nat) :
    List Nat :=
  match expansions.lookup code with
  | some codes => codes
  | none =>
    match runs.find? (·.covers code) with
    | some run => [(Int.ofNat code + run.distance).toNat]
    | none => [code]

/-- The lower case form of one character, without regard to its neighbours. -/
def lowerChar (character : Char) : List Char :=
  if character.toNat < 0x80 then [character.toLower]
  else (counterparts lowerExpansions lowerRuns character.toNat).map Char.ofNat

/-- The upper case form of one character. -/
def upperChar (character : Char) : List Char :=
  if character.toNat < 0x80 then [character.toUpper]
  else (counterparts upperExpansions upperRuns character.toNat).map Char.ofNat

/-- Whether one of the ranges holds the character. -/
def inRanges (ranges : List (Nat × Nat)) (character : Char) : Bool :=
  ranges.any fun range => range.1 ≤ character.toNat && character.toNat ≤ range.2

/-- Whether the first character that is not case-ignorable is cased. -/
def meetsCased (characters : List Char) : Bool :=
  match characters.dropWhile (inRanges caseIgnorableRanges) with
  | character :: _ => inRanges casedRanges character
  | [] => false

/-- Lower case of a text whose characters before it are `before`, the nearest first. A capital sigma
is final when a cased letter comes before it and none after it. -/
def lowerAfter (before : List Char) : List Char → List Char
  | [] => []
  | character :: rest =>
    (if character = 'Σ' then
      if meetsCased before && !meetsCased rest then ['ς'] else ['σ']
    else lowerChar character) ++ lowerAfter (character :: before) rest

/-- The text in lower case. -/
def toLower (text : String) : String :=
  .ofList (lowerAfter [] text.toList)

/-- The text in upper case. -/
def toUpper (text : String) : String :=
  .ofList (text.toList.flatMap upperChar)

/-- Equality of texts that disregards the case of ASCII letters only. -/
def sameAsciiLetters (left right : String) : Bool :=
  left.toList.map Char.toLower == right.toList.map Char.toLower

end DbSchema.Text
