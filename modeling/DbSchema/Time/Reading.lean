import DbSchema.Time.Timestamp
import DbSchema.Text.Blank
import DbSchema.Text.Bytes

/-!
# Reading timestamps

RFC 3339 texts with any offset are read into UTC. The strict form fixes the width of every number;
the lenient form also takes shorter numbers, signed years, blanks between the parts, and `UTC` or
parts without a colon as the offset.
-/

namespace DbSchema

/-- Why a text is not a timestamp. -/
inductive TimestampError where
  | outOfRange
  | noSuchTime
  | invalidCharacter
  | tooShort
  | trailingInput
  deriving DecidableEq, Repr

/-- The text of the error. -/
def TimestampError.message : TimestampError → String
  | outOfRange => "input is out of range"
  | noSuchTime => "no possible date and time matching input"
  | invalidCharacter => "input contains invalid characters"
  | tooShort => "premature end of input"
  | trailingInput => "trailing input"

namespace Timestamp

open Text (isBlank shorterThan trimStart)

/-- Reads between `least` and `most` digits as a number of at most 63 bits. -/
def readNumber (least : Nat) (most : Option Nat) (text : List Char) :
    Except TimestampError (Nat × List Char) :=
  if shorterThan least text then .error .tooShort
  else
    let digits := (text.take (most.getD text.length)).takeWhile Char.isDigit
    let number := Nat.ofDigitChars 10 digits 0
    if digits.length < least then .error .invalidCharacter
    else if 0x8000000000000000 ≤ number then .error .outOfRange
    else .ok (number, text.drop digits.length)

/-- Reads one of `count` numbers, which are written from `first` on and counted from zero. -/
def readOneOf (least most first count : Nat) (text : List Char) :
    Except TimestampError (Fin count × List Char) := do
  let (number, rest) ← readNumber least (some most) text
  if within : first ≤ number ∧ number - first < count then .ok (⟨number - first, within.2⟩, rest)
  else .error .outOfRange

/-- Reads one given character. -/
def readMark (mark : Char) : List Char → Except TimestampError (Unit × List Char)
  | [] => .error .tooShort
  | character :: rest => if character = mark then .ok ((), rest) else .error .invalidCharacter

/-- Reads the letter or space between date and time of day. -/
def readDivider : List Char → Except TimestampError (Unit × List Char)
  | [] => .error .tooShort
  | character :: rest =>
    if character = 'T' || character = 't' || character = ' ' then .ok ((), rest)
    else .error .invalidCharacter

/-- Reads an optional fraction of a second; digits beyond the ninth are passed over. -/
def readFraction : List Char → Except TimestampError (Fin 1000000000 × List Char)
  | '.' :: text => do
    let (number, rest) ← readNumber 1 (some 9) text
    let width := text.length - rest.length
    -- Nine digits at most do not make a full second.
    .ok (nanosecondOf (number * Nat.pow 10 (9 - width)), rest.dropWhile Char.isDigit)
  | text => .ok (nanosecondOf 0, text)

/-- Reads a year of at most four digits, or of any length after a sign. -/
def readSignedYear (text : List Char) : Except TimestampError (Int × List Char) := do
  let bounded (year : Int) (rest : List Char) : Except TimestampError (Int × List Char) :=
    if -2147483648 ≤ year && year ≤ 2147483647 then .ok (year, rest) else .error .outOfRange
  match text with
  | '-' :: digits => do
    let (number, rest) ← readNumber 1 none digits
    bounded (-Int.ofNat number) rest
  | '+' :: digits => do
    let (number, rest) ← readNumber 1 none digits
    bounded (Int.ofNat number) rest
  | digits => do
    let (number, rest) ← readNumber 1 (some 4) digits
    bounded (Int.ofNat number) rest

/-- Reads two characters that must be digits. -/
def readPair (text : List Char) :
    Except TimestampError ((Nat × Nat) × List Char) :=
  if shorterThan 2 text then .error .tooShort
  else
    match text with
    | first :: second :: rest =>
      if first.isDigit && second.isDigit then
        .ok ((first.toNat - '0'.toNat, second.toNat - '0'.toNat), rest)
      else .error .invalidCharacter
    | _ => .error .invalidCharacter

/-- Reads an offset from UTC in minutes; `readColon` reads what stands between hours and minutes. -/
def readOffset (readColon : List Char → Except TimestampError (Unit × List Char))
    (text : List Char) : Except TimestampError (Int × List Char) := do
  match text with
  | [] => .error .tooShort
  | sign :: rest =>
    if sign = 'Z' || sign = 'z' then .ok (0, rest)
    else if sign = '+' || sign = '-' || sign = '−' then do
      let ((hourTens, hourOnes), afterHours) ← readPair rest
      let ((), afterColon) ← readColon afterHours
      let ((minuteTens, minuteOnes), afterMinutes) ← readPair afterColon
      if 5 < minuteTens then .error .outOfRange
      else
        let minutes := Int.ofNat ((hourTens * 10 + hourOnes) * 60 + minuteTens * 10 + minuteOnes)
        .ok (if sign = '+' then minutes else -minutes, afterMinutes)
    else .error .invalidCharacter

/-- Passes over colons and blanks. -/
def passColons (text : List Char) : Except TimestampError (Unit × List Char) :=
  .ok ((), text.dropWhile fun character => character = ':' || isBlank character)

/-- Reads `UTC` in any case, or an offset whose colon may be missing. -/
def readLenientOffset (text : List Char) : Except TimestampError (Int × List Char) :=
  if (text.take 3).map Char.toLower == ['u', 't', 'c'] then .ok (0, text.drop 3)
  else readOffset passColons text

/-- The day of a month that is long enough, in a year that is reached. -/
def dayOf (year : Int) (month : Fin 12) (day : Fin 31) :
    Except TimestampError (Fin (lastDay year month + 1)) :=
  if within : day.val ≤ lastDay year month ∧ isReached year then
    .ok ⟨day, Nat.lt_succ_of_le within.1⟩
  else .error .outOfRange

/-- The timestamp that shows `clock` on a clock ahead of UTC by `offset` minutes. -/
def ofLocal (offset : Int) (clock : Timestamp) : Except TimestampError Timestamp :=
  if 1440 ≤ offset.natAbs then .error .outOfRange
  else
    match shiftMinutes? (-offset) clock with
    | some time => .ok time
    | none => .error .noSuchTime

/-- Reads a strict RFC 3339 text. -/
def ofText? (text : String) : Except TimestampError Timestamp := do
  let (year, rest) ← readNumber 4 (some 4) text.toList
  let ((), rest) ← readMark '-' rest
  let (month, rest) ← readOneOf 2 2 1 12 rest
  let ((), rest) ← readMark '-' rest
  let (day, rest) ← readOneOf 2 2 1 31 rest
  let ((), rest) ← readDivider rest
  let (hour, rest) ← readOneOf 2 2 0 24 rest
  let ((), rest) ← readMark ':' rest
  let (minute, rest) ← readOneOf 2 2 0 60 rest
  let ((), rest) ← readMark ':' rest
  let (second, rest) ← readOneOf 2 2 0 61 rest
  let (nanosecond, rest) ← readFraction rest
  let (offset, rest) ← readOffset (readMark ':') rest
  if 1440 ≤ offset.natAbs then .error .outOfRange
  else if !rest.isEmpty then .error .trailingInput
  else do
    let day ← dayOf (Int.ofNat year) month day
    ofLocal offset ⟨Int.ofNat year, month, day, hour, minute, second, nanosecond⟩

/-- Reads a text in the lenient form. -/
def ofLenientText? (text : String) : Except TimestampError Timestamp := do
  let (year, rest) ← readSignedYear (trimStart text.toList)
  let ((), rest) ← readMark '-' (trimStart rest)
  let (month, rest) ← readOneOf 1 2 1 12 (trimStart rest)
  let ((), rest) ← readMark '-' (trimStart rest)
  let (day, rest) ← readOneOf 1 2 1 31 (trimStart rest)
  let ((), rest) ← readDivider rest
  let (hour, rest) ← readOneOf 1 2 0 24 (trimStart rest)
  let ((), rest) ← readMark ':' (trimStart rest)
  let (minute, rest) ← readOneOf 1 2 0 60 (trimStart rest)
  let ((), rest) ← readMark ':' (trimStart rest)
  let (second, rest) ← readOneOf 1 2 0 61 (trimStart rest)
  let (nanosecond, rest) ← readFraction rest
  let (offset, rest) ← readLenientOffset (trimStart rest)
  if !(trimStart rest).isEmpty then .error .trailingInput
  else do
    let day ← dayOf year month day
    ofLocal offset ⟨year, month, day, hour, minute, second, nanosecond⟩

end Timestamp

end DbSchema
