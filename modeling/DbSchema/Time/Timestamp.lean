import DbSchema.Number.Notation

/-!
# Timestamps

Points of time in UTC by their calendar fields, the calendar step over a day boundary, and their
text. The types of the fields leave no room for a day that a month does not have. A second of `60`
is a leap second and stays one.
-/

namespace DbSchema

/-- A year is a leap year exactly when four divides it, unless a hundred does and four hundred does
not. -/
def isLeapYear (year : Int) : Bool :=
  year % 4 == 0 && (year % 100 != 0 || year % 400 == 0)

/-- The last day of a month. Months and days are counted from zero. -/
def lastDay (year : Int) (month : Nat) : Nat :=
  if month == 1 then if isLeapYear year then 28 else 27
  else if month == 3 || month == 5 || month == 8 || month == 10 then 29
  else 30

theorem lastDay_le (year : Int) (month : Nat) : lastDay year month ≤ 30 := by
  unfold lastDay
  split <;> split <;> decide

/-- A point of time in UTC, in the proleptic Gregorian calendar. The months of a year and the days
of a month are counted from zero, as the hours are, so that every field ranges over exactly what the
calendar and the clock have. -/
structure Timestamp where
  year : Int
  month : Fin 12
  day : Fin (lastDay year month + 1)
  hour : Fin 24
  minute : Fin 60
  second : Fin 61
  nanosecond : Fin 1000000000
  deriving DecidableEq, Repr, Inhabited

namespace Timestamp

/-- The first year that is read and reached. -/
def leastYear : Int := -262143

/-- The last year that is read and reached. -/
def greatestYear : Int := 262142

/-- Whether a year is read and reached. -/
def isReached (year : Int) : Bool :=
  leastYear ≤ year && year ≤ greatestYear

/-- The same time of day on the day after. -/
def nextDay (time : Timestamp) : Timestamp :=
  if inMonth : time.day.val < lastDay time.year time.month then
    { time with day := ⟨time.day.val + 1, Nat.succ_lt_succ inMonth⟩ }
  else if inYear : time.month.val + 1 < 12 then
    { time with month := ⟨time.month.val + 1, inYear⟩, day := 0 }
  else { time with year := time.year + 1, month := 0, day := 0 }

/-- The same time of day on the day before. -/
def previousDay (time : Timestamp) : Timestamp :=
  match time.day, time.month with
  | ⟨day + 1, inMonth⟩, _ => { time with day := ⟨day, Nat.lt_of_succ_lt inMonth⟩ }
  | ⟨0, _⟩, ⟨month + 1, inYear⟩ =>
    { time with month := ⟨month, Nat.lt_of_succ_lt inYear⟩, day := Fin.last _ }
  | ⟨0, _⟩, ⟨0, _⟩ => { time with year := time.year - 1, month := 11, day := Fin.last _ }

/-- So many nanoseconds, without the full seconds among them. -/
def nanosecondOf (number : Nat) : Fin 1000000000 :=
  Fin.ofNat 1000000000 number

/-- The minutes of the day before a point of time. -/
def minuteOfDay (time : Timestamp) : Nat :=
  time.hour.val * 60 + time.minute.val

/-- The same day and second at a minute of the day. -/
def atMinuteOfDay (minutes : Nat) (time : Timestamp) : Timestamp :=
  { time with hour := Fin.ofNat 24 (minutes / 60), minute := Fin.ofNat 60 minutes }

/-- The same clock reading taken `minutes` later or earlier, at most a day away; the seconds stay.
Nothing when it is in a year that is not reached. -/
def shiftMinutes? (minutes : Int) (time : Timestamp) : Option Timestamp :=
  let total := Int.ofNat time.minuteOfDay + minutes
  let shifted :=
    if total < 0 then previousDay time else if 1440 ≤ total then nextDay time else time
  if isReached shifted.year then some (shifted.atMinuteOfDay (total % 1440).toNat) else none

/-- The last `width` decimal digits of a number, with zeros in front. -/
def fixedDigits : (width : Nat) → (number : Nat) → List Char
  | 0, _ => []
  | width + 1, number =>
    fixedDigits width (number / 10) ++ [Nat.digitChar (number % 10)]

theorem length_fixedDigits (width number : Nat) : (fixedDigits width number).length = width := by
  induction width generalizing number with
  | zero => rfl
  | succ width inductionHypothesis => simp [fixedDigits, inductionHypothesis]

/-- A number is written in digits only. -/
theorem isDigit_of_mem_fixedDigits {width number : Nat} {digit : Char}
    (member : digit ∈ fixedDigits width number) : digit.isDigit = true := by
  induction width generalizing number with
  | zero => simp [fixedDigits] at member
  | succ width inductionHypothesis =>
      rcases List.mem_append.1 member with member | member
      · exact inductionHypothesis member
      · rw [List.mem_singleton.1 member, Nat.isDigit_digitChar, decide_eq_true_eq]
        exact Nat.mod_lt number (by decide)

/-- A year is written with four digits, and with a sign before or after the years `0` to `9999`. -/
def yearText (year : Int) : List Char :=
  let digits := naturalText year.natAbs
  let padded := List.replicate (4 - digits.length) '0' ++ digits
  if 0 ≤ year && year ≤ 9999 then padded
  else (if year < 0 then '-' else '+') :: padded

/-- Date and time of day to the second. -/
def secondText (time : Timestamp) : List Char :=
  yearText time.year ++ ['-'] ++ fixedDigits 2 (time.month.val + 1) ++ ['-']
    ++ fixedDigits 2 (time.day.val + 1) ++ ['T'] ++ fixedDigits 2 time.hour ++ [':']
    ++ fixedDigits 2 time.minute ++ [':'] ++ fixedDigits 2 time.second

/-- The fraction of the second: none, three, six or nine digits, the fewest that are exact. -/
def fractionText (nanosecond : Nat) : List Char :=
  if nanosecond == 0 then []
  else if nanosecond % 1000000 == 0 then '.' :: fixedDigits 3 (nanosecond / 1000000)
  else if nanosecond % 1000 == 0 then '.' :: fixedDigits 6 (nanosecond / 1000)
  else '.' :: fixedDigits 9 nanosecond

/-- The text of a timestamp, exact to the nanosecond. -/
def text (time : Timestamp) : String :=
  .ofList (secondText time ++ fractionText time.nanosecond ++ ['Z'])

/-- The text of a timestamp without its fraction. -/
def textToSecond (time : Timestamp) : String :=
  .ofList (secondText time ++ ['Z'])

/-- The start of the day a number of days after 1 January 1970. Years are counted from March here,
so that the day that leap years add comes last. -/
def ofDays (number : Int) : Timestamp :=
  let shifted := number + 719468
  let era := shifted / 146097
  let dayOfEra := (shifted % 146097).toNat
  let yearOfEra := (dayOfEra - dayOfEra / 1460 + dayOfEra / 36524 - dayOfEra / 146096) / 365
  let dayOfYear := dayOfEra - (365 * yearOfEra + yearOfEra / 4 - yearOfEra / 100)
  let marchMonth := (5 * dayOfYear + 2) / 153
  -- Only the month wraps around, from December to January.
  let month := Fin.ofNat 12 (marchMonth + 2)
  let year := Int.ofNat yearOfEra + era * 400 + (if month < 2 then 1 else 0)
  ⟨year, month, Fin.ofNat _ (dayOfYear - (153 * marchMonth + 2) / 5), 0, 0, 0, 0⟩

/-- The point of time a number of seconds after the start of 1970, without leap seconds, and a
fraction of a second later. -/
def ofSeconds (seconds : Int) (nanosecond : Nat) : Timestamp :=
  let rest := (seconds % 86400).toNat
  { ofDays (seconds / 86400) with
    hour := Fin.ofNat 24 (rest / 3600), minute := Fin.ofNat 60 (rest / 60),
    second := Fin.ofNat 61 (rest % 60), nanosecond := nanosecondOf nanosecond }

/-- Days are counted from the first of January 1970. -/
example : (ofDays 0).text = "1970-01-01T00:00:00Z" ∧ (ofDays (-1)).text = "1969-12-31T00:00:00Z"
    ∧ (ofDays 11016).text = "2000-02-29T00:00:00Z"
    ∧ (ofDays 11017).text = "2000-03-01T00:00:00Z" := by decide

end Timestamp

end DbSchema
