import DbSchema.Json.Quoted

/-!
# From text to JSON tokens

Cuts a text into tokens. Behind a token that is spelled wrongly nothing more is cut, since no reader
gets past it.
-/

namespace DbSchema.Json

/-- The blanks between tokens: space, line feed, tab and carriage return. -/
def isSpace (character : Char) : Bool :=
  character = ' ' || character = '\n' || character = '\t' || character = '\r'

/-- A token and the text behind it. -/
structure Cut where
  token : Token
  rest : List Char

/-- Cuts a word whose first letter has been passed; `expected` are its other letters. -/
def cutWord (token : Token) : (expected : List Char) → List Char → Cut
  | [], rest => ⟨token, rest⟩
  | _ :: _, [] => ⟨.broken .endOfValue .endOfValue, []⟩
  | letter :: expected, character :: rest =>
    if character = letter then cutWord token expected rest
    else ⟨.broken .expectedWord .expectedWord, []⟩

/-- What stands in place of digits that are missing from a numeral. -/
def missingDigits (rest : List Char) : Cut :=
  if rest.isEmpty then ⟨.broken .endOfValue .invalidNumber, []⟩
  else ⟨.broken .invalidNumber .invalidNumber, []⟩

/-- Passes over the sign of an exponent: whether it is a minus, and the text behind it. -/
def exponentSign : List Char → Bool × List Char
  | [] => (false, [])
  | mark :: rest =>
    if mark = '-' then (true, rest) else if mark = '+' then (false, rest) else (false, mark :: rest)

/-- Cuts the exponent of a numeral, if the text has one there. -/
def cutExponent (negative : Bool) (whole : List Char) (fraction : Option (List Char)) :
    List Char → Cut
  | [] => ⟨.number (Numeral.value ⟨negative, whole, fraction, none⟩), []⟩
  | mark :: behind =>
    if mark = 'e' || mark = 'E' then
      let (below, unsigned) := exponentSign behind
      let digits := unsigned.takeWhile Char.isDigit
      let rest := unsigned.dropWhile Char.isDigit
      if digits.isEmpty then missingDigits rest
      else ⟨.number (Numeral.value ⟨negative, whole, fraction, some (below, digits)⟩), rest⟩
    else ⟨.number (Numeral.value ⟨negative, whole, fraction, none⟩), mark :: behind⟩

/-- Cuts what follows the digits before the point of a numeral. -/
def cutFraction (negative : Bool) (whole : List Char) : List Char → Cut
  | [] => cutExponent negative whole none []
  | mark :: behind =>
    if mark = '.' then
      let places := behind.takeWhile Char.isDigit
      let rest := behind.dropWhile Char.isDigit
      if places.isEmpty then missingDigits rest else cutExponent negative whole (some places) rest
    else cutExponent negative whole none (mark :: behind)

/-- Cuts a numeral whose sign has been passed. More digits must not follow a leading zero. -/
def cutNumeral (negative : Bool) (text : List Char) : Cut :=
  let whole := text.takeWhile Char.isDigit
  let rest := text.dropWhile Char.isDigit
  match whole with
  | [] => missingDigits rest
  | '0' :: _ :: _ => ⟨.broken .invalidNumber .invalidNumber, []⟩
  | whole => cutFraction negative whole rest

/-- The mark that a character is. -/
def markOf : Char → Option Mark
  | '[' => some .openList
  | ']' => some .closeList
  | '\x7b' => some .openObject
  | '\x7d' => some .closeObject
  | ',' => some .comma
  | ':' => some .colon
  | _ => none

/-- The word that starts with a letter, as its token and its other letters. -/
def wordOf : Char → Option (Token × List Char)
  | 'n' => some (.null, ['u', 'l', 'l'])
  | 't' => some (.boolean true, ['r', 'u', 'e'])
  | 'f' => some (.boolean false, ['a', 'l', 's', 'e'])
  | _ => none

/-- Cuts the token that starts with a character. -/
def cutToken (first : Char) (rest : List Char) : Cut :=
  match markOf first, wordOf first with
  | some mark, _ => ⟨.mark mark, rest⟩
  | none, some (token, letters) => cutWord token letters rest
  | none, none =>
    if first = '"' then ⟨.text (scanText rest).quoted, (scanText rest).rest⟩
    else if first = '-' then cutNumeral true rest
    else if first.isDigit then cutNumeral false (first :: rest)
    else ⟨.stray, []⟩

theorem cutWord_rest_length (token : Token) (expected text : List Char) :
    (cutWord token expected text).rest.length ≤ text.length := by
  induction expected generalizing text with
  | nil => simp [cutWord]
  | cons letter expected inductionHypothesis =>
    cases text with
    | nil => simp [cutWord]
    | cons character rest =>
      have shorter := inductionHypothesis rest
      simp only [cutWord]
      split
      · simp only [List.length_cons]
        omega
      · simp

theorem missingDigits_rest (text : List Char) : (missingDigits text).rest = [] := by
  unfold missingDigits
  split <;> rfl

theorem length_dropWhile_le (keep : Char → Bool) (text : List Char) :
    (text.dropWhile keep).length ≤ text.length :=
  (List.dropWhile_suffix keep).length_le

theorem exponentSign_length (text : List Char) : (exponentSign text).2.length ≤ text.length := by
  cases text with
  | nil => simp [exponentSign]
  | cons mark rest =>
    simp only [exponentSign]
    split
    · simp
    · split <;> simp

theorem cutExponent_rest_length (negative : Bool) (whole : List Char)
    (fraction : Option (List Char)) (text : List Char) :
    (cutExponent negative whole fraction text).rest.length ≤ text.length := by
  cases text with
  | nil => simp [cutExponent]
  | cons mark behind =>
    have unsigned := exponentSign_length behind
    have dropped := length_dropWhile_le Char.isDigit (exponentSign behind).2
    simp only [cutExponent]
    split
    · split
      · simp [missingDigits_rest]
      · simp only [List.length_cons]
        omega
    · simp

theorem cutFraction_rest_length (negative : Bool) (whole text : List Char) :
    (cutFraction negative whole text).rest.length ≤ text.length := by
  cases text with
  | nil => exact cutExponent_rest_length negative whole none []
  | cons mark behind =>
    have dropped := length_dropWhile_le Char.isDigit behind
    simp only [cutFraction]
    split
    · split
      · simp [missingDigits_rest]
      · refine Nat.le_trans (cutExponent_rest_length _ _ _ _) ?_
        simp only [List.length_cons]
        omega
    · exact cutExponent_rest_length _ _ _ _

/-- Behind a numeral there is less than before it. -/
theorem cutNumeral_rest_length (negative : Bool) (text : List Char) :
    (cutNumeral negative text).rest.length ≤ text.length - 1 := by
  simp only [cutNumeral]
  have parts := List.takeWhile_append_dropWhile (p := Char.isDigit) (l := text)
  split
  · simp [missingDigits_rest]
  · simp
  · rename_i noDigits _
    refine Nat.le_trans (cutFraction_rest_length _ _ _) ?_
    have total := congrArg List.length parts
    have some : 0 < (text.takeWhile Char.isDigit).length := List.length_pos_iff.2 noDigits
    simp only [List.length_append] at total
    omega

/-- Behind a token there is no more than behind its first character. -/
theorem cutToken_rest_length (first : Char) (rest : List Char) :
    (cutToken first rest).rest.length ≤ rest.length := by
  unfold cutToken
  split
  · exact Nat.le_refl _
  · exact cutWord_rest_length _ _ rest
  · split
    · exact scanText_rest_length rest
    · split
      · exact Nat.le_trans (cutNumeral_rest_length true rest) (Nat.sub_le _ _)
      · split
        · exact cutNumeral_rest_length false (first :: rest)
        · exact Nat.zero_le _

/-- The tokens of a text. -/
def tokens : List Char → List Token
  | [] => []
  | character :: rest =>
    if isSpace character then tokens rest
    else
      have := cutToken_rest_length character rest
      (cutToken character rest).token :: tokens (cutToken character rest).rest
  termination_by text => text.length
  decreasing_by
    all_goals simp only [List.length_cons]; omega

end DbSchema.Json
