import DbSchema.Time.Timestamp
import DbSchema.Toml.Item

/-!
# Scanning TOML

The parts of a TOML text below its values: blanks, comments and line ends, keys and strings,
numbers, dates and times. A scanner takes its part off the front of the text, or fails.
-/

namespace DbSchema.Toml

/-- A scanner. Alternatives start over at the same place. -/
abbrev Scan := StateT (List Char) Option

namespace Scan

/-- Takes one character that satisfies a test. -/
def one (test : Char → Bool) : Scan Char
  | [] => none
  | character :: rest => if test character then some (character, rest) else none

/-- Takes one given character. -/
def mark (character : Char) : Scan Unit :=
  discard (one (· = character))

/-- Takes given characters. -/
def word (characters : List Char) : Scan Unit :=
  characters.forM mark

/-- Takes the longest stretch of characters that satisfy a test. -/
def stretch (test : Char → Bool) : Scan (List Char) := fun text =>
  some (text.takeWhile test, text.dropWhile test)

/-- Takes a part if it is there. -/
def attempt {α : Type} (part : Scan α) : Scan (Option α) :=
  (some <$> part) <|> pure none

/-- Succeeds at the end of the text. -/
def atEnd : Scan Unit
  | [] => some ((), [])
  | _ => none

/-- Whether a character is a blank within a line. -/
def isBlank (character : Char) : Bool :=
  character = ' ' || character = '\t'

/-- Whether a character may stand in a comment or between quotes: no control character but the
tab. -/
def isContent (character : Char) : Bool :=
  character = '\t' || (' ' ≤ character && character != '\x7f')

/-- Takes blanks within a line. -/
def blanks : Scan Unit :=
  discard (stretch isBlank)

/-- Takes a line end. -/
def newline : Scan Unit :=
  word ['\n'] <|> word ['\r', '\n']

/-- Takes a comment, without its line end. -/
def comment : Scan Unit := do
  mark '#'
  discard (stretch isContent)

/-- Takes a line end or finds the end of the text. -/
def lineEnd : Scan Unit :=
  newline <|> atEnd

/-- Takes what may follow on a line: blanks, a comment and the line end. -/
def restOfLine : Scan Unit := do
  blanks
  discard (attempt comment)
  lineEnd

/-- Drops blanks and line ends. -/
def dropBlankLines : List Char → List Char
  | [] => []
  | character :: rest =>
    if isBlank character || character = '\n' then dropBlankLines rest
    else if character = '\r' then
      match rest with
      | '\n' :: rest => dropBlankLines rest
      | rest => '\r' :: rest
    else character :: rest

/-- Drops blanks, line ends and whole comments; `inComment` tells that one has begun. -/
def dropFiller (inComment : Bool) : List Char → Option (List Char)
  | [] => if inComment then none else some []
  | character :: rest =>
    if character = '\n' then dropFiller false rest
    else if character = '\r' then
      match rest with
      | '\n' :: rest => dropFiller false rest
      | _ => none
    else if inComment then if isContent character then dropFiller true rest else none
    else if character = '#' then dropFiller true rest
    else if isBlank character then dropFiller false rest
    else some (character :: rest)

/-- Takes blanks, line ends and comments between the items of a list. -/
def filler : Scan Unit := fun text =>
  (dropFiller false text).map fun rest => ((), rest)

/-- The value of a hexadecimal digit of either case. -/
def hexValue (digit : Char) : Option Nat :=
  if digit.isDigit then some (digit.toNat - '0'.toNat)
  else if 'a' ≤ digit && digit ≤ 'f' then some (digit.toNat - 'a'.toNat + 10)
  else if 'A' ≤ digit && digit ≤ 'F' then some (digit.toNat - 'A'.toNat + 10)
  else none

/-- Whether a character is a hexadecimal digit. -/
def isHexDigit (character : Char) : Bool :=
  (hexValue character).isSome

/-- Takes a number of hexadecimal digits as the code point of a character. -/
def codePoint (width : Nat) : Scan Char := fun text =>
  let digits := text.take width
  let code := digits.foldl (fun code digit => code * 16 + (hexValue digit).getD 0) 0
  if digits.length == width && digits.all isHexDigit && code.isValidChar then
    some (.ofNat code, text.drop width)
  else none

/-- Takes what follows the backslash of an escape. -/
def escape : Scan Char := do
  match ← one fun _ => true with
  | 'b' => pure '\x08'
  | 't' => pure '\t'
  | 'n' => pure '\n'
  | 'f' => pure '\x0c'
  | 'r' => pure '\r'
  | '"' => pure '"'
  | '\\' => pure '\\'
  | 'u' => codePoint 4
  | 'U' => codePoint 8
  | _ => failure

/-- Takes the rest of a text on one line behind its opening quote. Only between double quotes is a
backslash an escape. `fuel` bounds the length. -/
def lineText (quote : Char) : (fuel : Nat) → Scan (List Char)
  | 0 => failure
  | fuel + 1 => do
    let character ← one fun _ => true
    if character = quote then pure []
    else if character = '\\' && quote = '"' then
      return (← escape) :: (← lineText quote fuel)
    else if isContent character then return character :: (← lineText quote fuel)
    else failure

/-- Takes a line end that a backslash escapes, with the blanks around it. -/
def escapedLineEnd : Scan Unit := do
  blanks
  newline
  modify dropBlankLines

/-- Takes the rest of a text over several lines behind its opening quotes. Up to two quotes may
stand directly before the closing three. -/
def linesText (quote : Char) : (fuel : Nat) → Scan (List Char)
  | 0 => failure
  | fuel + 1 => do
    let quotes := ((← get).takeWhile (· = quote)).length
    if 3 ≤ quotes then
      let kept := min (quotes - 3) 2
      modify (List.drop (3 + kept))
      return List.replicate kept quote
    else
      match ← attempt newline with
      | some () => return '\n' :: (← linesText quote fuel)
      | none =>
        let character ← one fun _ => true
        if character = '\\' && quote = '"' then
          match ← attempt escapedLineEnd with
          | some () => linesText quote fuel
          | none => return (← escape) :: (← linesText quote fuel)
        else if isContent character then return character :: (← linesText quote fuel)
        else failure

/-- A bound for the number of steps that the text allows. -/
def fuel : Scan Nat :=
  return (← get).length + 1

/-- Takes a text on one line. -/
def quotedOnLine (quote : Char) : Scan String := do
  mark quote
  return .ofList (← lineText quote (← fuel))

/-- Takes a text over several lines. A line end directly behind the opening quotes is not part of
it. -/
def quotedOverLines (quote : Char) : Scan String := do
  word [quote, quote, quote]
  discard (attempt newline)
  return .ofList (← linesText quote (← fuel))

/-- Takes a text in any of its forms. -/
def text : Scan String :=
  quotedOverLines '"' <|> quotedOnLine '"' <|> quotedOverLines '\'' <|> quotedOnLine '\''

/-- Whether a character may stand in a key without quotes. -/
def isBareKey (character : Char) : Bool :=
  character.isAlphanum || character = '-' || character = '_'

/-- Takes a key without dots. -/
def simpleKey : Scan String :=
  quotedOnLine '"' <|> quotedOnLine '\'' <|> do
    let characters ← stretch isBareKey
    if characters.isEmpty then failure else return .ofList characters

/-- Takes keys between dots, with blanks around each. -/
def keysBetweenDots : (fuel : Nat) → Scan (List String)
  | 0 => failure
  | fuel + 1 => do
    blanks
    let key ← simpleKey
    blanks
    match ← attempt (mark '.') with
    | none => return [key]
    | some () => return key :: (← keysBetweenDots fuel)

/-- One more than the number of keys between dots, and than the depth of lists and inline tables. -/
def depthLimit : Nat := 80

/-- Takes a key: the keys in front of its last dot, and the one behind it. -/
def dottedKey : Scan (List String × String) := do
  let keys ← keysBetweenDots (← fuel)
  match keys.getLast? with
  | some key => if keys.length < depthLimit then return (keys.dropLast, key) else failure
  | none => failure

/-- Splits digits off a text; single underscores may stand between them. -/
def splitDigits (test : Char → Bool) : List Char → List Char × List Char
  | [] => ([], [])
  | '_' :: digit :: rest =>
    if test digit then
      let (digits, rest) := splitDigits test rest
      (digit :: digits, rest)
    else ([], '_' :: digit :: rest)
  | digit :: rest =>
    if test digit then
      let (digits, rest) := splitDigits test rest
      (digit :: digits, rest)
    else ([], digit :: rest)

/-- Takes at least one digit. -/
def digits (test : Char → Bool) : Scan (List Char) := do
  let first ← one test
  return first :: (← fun text => some (splitDigits test text))

/-- Takes a sign if there is one: whether it is a minus. -/
def sign : Scan Bool := do
  return (← attempt (one fun character => character = '+' || character = '-')) == some '-'

/-- Takes a decimal integer: its sign and its digits. More digits must not follow a zero. -/
def decimal : Scan (Bool × List Char) := do
  let negative ← sign
  match ← attempt (mark '0') with
  | some () => return (negative, ['0'])
  | none => return (negative, ← digits Char.isDigit)

/-- Succeeds with an integer of 64 bits. -/
def bounded (value : Int) : Scan Item :=
  if -0x8000000000000000 ≤ value && value < 0x8000000000000000 then return .integer value
  else failure

/-- The number that digits of a base stand for. -/
def numberIn (base : Nat) (digits : List Char) : Int :=
  Int.ofNat (digits.foldl (fun number digit => number * base + (hexValue digit).getD 0) 0)

/-- Takes an integer with a prefix for its base. -/
def prefixedInteger (letter : Char) (base : Nat) (test : Char → Bool) : Scan Item := do
  word ['0', letter]
  bounded (numberIn base (← digits test))

/-- Takes an integer. -/
def integer : Scan Item :=
  prefixedInteger 'x' 16 isHexDigit
    <|> prefixedInteger 'o' 8 (fun digit => '0' ≤ digit && digit ≤ '7')
    <|> prefixedInteger 'b' 2 (fun digit => digit = '0' || digit = '1')
    <|> do
      let (negative, digits) ← decimal
      let number := numberIn 10 digits
      bounded (if negative then -number else number)

/-- Takes the exponent of a number. -/
def exponent : Scan Int := do
  discard (one fun character => character = 'e' || character = 'E')
  let negative ← sign
  let number := numberIn 10 (← digits Char.isDigit)
  return if negative then -number else number

/-- The value nearest to `digits * 10 ^ exponent`; nothing when it is too large. Exponents far
beyond the format are settled without computing the power. -/
def nearest (negative : Bool) (digits : List Char) (exponent : Int) : Option Binary64 :=
  let significand := Nat.ofDigitChars 10 digits 0
  let places := Int.ofNat (digits.dropWhile (· = '0')).length + exponent
  if significand == 0 || places < -400 then some (.zero negative)
  else if 400 < places then none
  else if 0 ≤ exponent then
    Binary64.ofQuotient? negative (significand * Nat.pow 10 exponent.toNat) 1
  else Binary64.ofQuotient? negative significand (Nat.pow 10 (-exponent).toNat)

/-- Takes a number with a point or an exponent. Only negative ones may be too large. -/
def pointed : Scan Item := do
  let (negative, whole) ← decimal
  let places ← attempt do
    mark '.'
    digits Char.isDigit
  let power ←
    match places with
    | none => exponent
    | some _ => (·.getD 0) <$> attempt exponent
  let behind := places.getD []
  match nearest negative (whole ++ behind) (power - Int.ofNat behind.length) with
  | some value => return .real (.finite value)
  | none => if negative then return .real (.infinite true) else failure

/-- Takes infinity or the value that is no number. -/
def special : Scan Item := do
  let negative ← sign
  (do word ['i', 'n', 'f']; return .real (.infinite negative))
    <|> (do word ['n', 'a', 'n']; return .real .notANumber)

/-- Takes a fixed number of digits whose number lies between two bounds. -/
def fixed (width low high : Nat) : Scan Nat := fun text =>
  let digits := text.take width
  let number := Nat.ofDigitChars 10 digits 0
  if digits.length == width && digits.all Char.isDigit && low ≤ number && number ≤ high then
    some (number, text.drop width)
  else none

/-- Takes a day of the calendar. -/
def date : Scan Unit := do
  let year ← fixed 4 0 9999
  mark '-'
  let month ← fixed 2 1 12
  mark '-'
  discard (fixed 2 1 (lastDay (Int.ofNat year) (month - 1) + 1))

/-- Takes a time of day. -/
def time : Scan Unit := do
  discard (fixed 2 0 23)
  mark ':'
  discard (fixed 2 0 59)
  mark ':'
  discard (fixed 2 0 60)
  discard (attempt do
    mark '.'
    discard (one Char.isDigit)
    stretch Char.isDigit)

/-- Takes an offset from universal time. -/
def offset : Scan Unit :=
  discard (one fun character => character = 'Z' || character = 'z')
    <|> do
      discard (one fun character => character = '+' || character = '-')
      discard (fixed 2 0 23)
      mark ':'
      discard (fixed 2 0 59)

/-- Takes a date, a time, or both and possibly an offset. -/
def dateTime : Scan Item :=
  (do
    date
    discard (attempt do
      discard (one fun character => character = 'T' || character = 't' || character = ' ')
      time
      attempt offset)
    return .dateTime)
    <|> (do time; return .dateTime)

/-- Takes a truth value. -/
def boolean : Scan Item :=
  (do word ['t', 'r', 'u', 'e']; return .boolean true)
    <|> (do word ['f', 'a', 'l', 's', 'e']; return .boolean false)

end Scan

end DbSchema.Toml
