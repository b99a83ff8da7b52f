import DbSchema.Proofs.Json.Spelling
import DbSchema.Proofs.Time.Lenience
import Mathlib.Data.List.Induction

/-!
# Number literals

The literals of JSON that are numbers, by their parts, and how they are read. A literal is cut as
one token wherever it stands, with the numeral of its parts. Without fraction and exponent it is an
integer exactly when it fits 64 bits and is not negative zero.
-/

namespace DbSchema.Json

open Timestamp (Spells Stops stops_cons takeWhile_digits)

/-- Whether a text consists of digits, at least one. -/
abbrev IsDigits (text : List Char) : Prop :=
  Spells text (Nat.ofDigitChars 10 text 0)

/-- A text consists of digits if a check of all its characters finds no other one. -/
theorem isDigits_of_all {text : List Char} (nonempty : text ≠ [])
    (areDigits : text.all Char.isDigit = true) : IsDigits text :=
  ⟨nonempty, List.all_eq_true.1 areDigits, rfl⟩

/-- Digits have no other character among them. -/
theorem IsDigits.not_mem {text : List Char} {character : Char} (isDigits : IsDigits text)
    (noDigit : character.isDigit = false) : character ∉ text := fun member =>
  Bool.false_ne_true (noDigit.symm.trans (isDigits.areDigits character member))

/-- The exponent of a literal: its mark, its sign if it has one, and its digits. -/
structure LiteralExponent where
  mark : Char
  sign : List Char
  digits : List Char
  isMark : mark = 'e' ∨ mark = 'E'
  isSign : sign = [] ∨ sign = ['+'] ∨ sign = ['-']
  isDigits : IsDigits digits

/-- A number literal: its sign, the digits before the point, the digits behind it if there is one,
and its exponent if it has one. -/
structure Literal where
  negative : Bool
  whole : List Char
  fraction : Option (List Char)
  exponent : Option LiteralExponent
  wholeDigits : IsDigits whole
  noLeadingZero : whole.head? = some '0' → whole = ['0']
  fractionDigits : ∀ places, fraction = some places → IsDigits places

/-- The text of an exponent. -/
def LiteralExponent.text (exponent : LiteralExponent) : List Char :=
  exponent.mark :: (exponent.sign ++ exponent.digits)

namespace Literal

/-- The text of a literal behind its sign. -/
def unsignedText (literal : Literal) : List Char :=
  literal.whole ++ (literal.fraction.elim [] ('.' :: ·)
    ++ literal.exponent.elim [] LiteralExponent.text)

/-- The text of a literal. -/
def text (literal : Literal) : List Char :=
  (if literal.negative then ['-'] else []) ++ literal.unsignedText

/-- What a reader keeps of a literal. -/
def numeral (literal : Literal) : Numeral where
  negative := literal.negative
  whole := literal.whole
  fraction := literal.fraction
  exponent := literal.exponent.map fun exponent => (exponent.sign == ['-'], exponent.digits)

/-- Whether a literal has neither fraction nor exponent. -/
def IsInteger (literal : Literal) : Prop :=
  literal.fraction = none ∧ literal.exponent = none

/-- The number that the digits before the point spell. -/
def amount (literal : Literal) : Nat :=
  Nat.ofDigitChars 10 literal.whole 0

/-- Whether an integer with this sign fits 64 bits, and is not zero with a sign. -/
def FitsWord (literal : Literal) : Prop :=
  if literal.negative then 0 < literal.amount ∧ literal.amount ≤ 0x8000000000000000
  else literal.amount < 0x10000000000000000

end Literal

section Cutting

variable {rest : List Char}

/-- What does not go on with a numeral does not go on with a digit. -/
theorem Delimits.stops (delimits : Delimits rest) : Stops rest :=
  fun character first => (delimits character first).1

/-- The sign of an exponent is passed over. -/
theorem exponentSign_append (exponent : LiteralExponent) (rest : List Char) :
    exponentSign (exponent.sign ++ (exponent.digits ++ rest)) =
      (exponent.sign == ['-'], exponent.digits ++ rest) := by
  rcases exponent.isSign with sign | sign | sign
  · cases digits : exponent.digits with
    | nil => exact absurd digits exponent.isDigits.nonempty
    | cons digit others =>
        have isDigit := exponent.isDigits.areDigits digit (by simp [digits])
        have noSign : digit ≠ '-' ∧ digit ≠ '+' := by
          constructor <;> rintro rfl <;> exact absurd isDigit (by decide)
        simp [sign, exponentSign, noSign]
  · rw [sign]
    rfl
  · rw [sign]
    rfl

/-- An exponent is cut off where it ends, and so is a numeral without one. -/
theorem cutExponent_text (negative : Bool) (whole : List Char) (fraction : Option (List Char))
    (exponent : Option LiteralExponent) (delimits : Delimits rest) :
    cutExponent negative whole fraction (exponent.elim [] LiteralExponent.text ++ rest) =
      ⟨.number (Numeral.value ⟨negative, whole, fraction,
        exponent.map fun exponent => (exponent.sign == ['-'], exponent.digits)⟩), rest⟩ := by
  cases exponent with
  | none =>
      cases rest with
      | nil => rfl
      | cons mark behind =>
          obtain ⟨-, -, noSmall, noLarge⟩ := delimits mark rfl
          simp [cutExponent, noSmall, noLarge]
  | some exponent =>
      obtain ⟨kept, dropped⟩ := takeWhile_digits exponent.isDigits delimits.stops
      have isMark : (decide (exponent.mark = 'e') || decide (exponent.mark = 'E')) = true := by
        simpa using exponent.isMark
      have some : exponent.digits.isEmpty = false := by
        simpa using exponent.isDigits.nonempty
      simp only [Option.elim_some, LiteralExponent.text, List.cons_append, List.append_assoc,
        cutExponent, if_pos isMark, exponentSign_append, kept, dropped, some, Option.map_some]
      rfl

/-- What follows the digits before the point of a literal does not go on with them. -/
theorem stops_exponentText (exponent : Option LiteralExponent) (delimits : Delimits rest) :
    Stops (exponent.elim [] LiteralExponent.text ++ rest) := by
  cases exponent with
  | none => exact delimits.stops
  | some exponent =>
      refine stops_cons _ ?_
      rcases exponent.isMark with mark | mark <;> rw [mark] <;> rfl

/-- What follows the digits before the point is cut off where it ends. -/
theorem cutFraction_text (literal : Literal) (delimits : Delimits rest) :
    cutFraction literal.negative literal.whole (literal.fraction.elim [] ('.' :: ·)
        ++ (literal.exponent.elim [] LiteralExponent.text ++ rest)) =
      ⟨.number literal.numeral.value, rest⟩ := by
  have cut := cutExponent_text literal.negative literal.whole literal.fraction literal.exponent
    delimits
  cases fraction : literal.fraction with
  | none =>
      rw [fraction] at cut
      rw [Literal.numeral, fraction, ← cut, Option.elim_none, List.nil_append]
      cases behind : literal.exponent.elim [] LiteralExponent.text ++ rest with
      | nil => rfl
      | cons mark others =>
          have noPoint : mark ≠ '.' := by
            cases exponent : literal.exponent with
            | none =>
                rw [exponent, Option.elim_none, List.nil_append] at behind
                exact (delimits mark (by rw [behind]; rfl)).2.1
            | some exponent' =>
                rw [exponent] at behind
                obtain ⟨rfl, -⟩ := List.cons.inj behind
                rintro point
                rcases exponent'.isMark with isMark | isMark <;>
                  exact absurd (isMark.symm.trans point) (by decide)
          rw [cutFraction, if_neg noPoint]
  | some places =>
      have isPlaces := literal.fractionDigits places fraction
      obtain ⟨kept, dropped⟩ :=
        takeWhile_digits isPlaces (stops_exponentText literal.exponent delimits)
      have some : places.isEmpty = false := by simpa using isPlaces.nonempty
      rw [fraction] at cut
      simp only [Option.elim_some, List.cons_append, cutFraction, ↓reduceIte, kept, dropped, some]
      rw [Literal.numeral, fraction, ← cut]
      rfl

/-- A literal is cut as the numeral of its parts, up to what does not go on with it. -/
theorem tokens_literal (literal : Literal) (delimits : Delimits rest) :
    tokens (literal.text ++ rest) = .number literal.numeral.value :: tokens rest := by
  have stops : Stops (literal.fraction.elim [] ('.' :: ·)
      ++ (literal.exponent.elim [] LiteralExponent.text ++ rest)) := by
    cases literal.fraction with
    | none => exact stops_exponentText literal.exponent delimits
    | some places => exact stops_cons _ rfl
  obtain ⟨kept, dropped⟩ := takeWhile_digits literal.wholeDigits stops
  have cut : cutNumeral literal.negative (literal.unsignedText ++ rest) =
      ⟨.number literal.numeral.value, rest⟩ := by
    rw [Literal.unsignedText, List.append_assoc, List.append_assoc, cutNumeral]
    simp only [kept, dropped]
    split
    case h_1 empty => exact absurd empty literal.wholeDigits.nonempty
    case h_2 second others zero =>
      have short := literal.noLeadingZero (by rw [zero]; rfl)
      rw [zero] at short
      simp at short
    case h_3 => exact cutFraction_text literal delimits
  rw [Literal.text]
  cases negative : literal.negative with
  | true =>
      rw [negative] at cut
      exact tokens_of_cut (by decide) cut
  | false =>
      rw [negative] at cut
      cases whole : literal.whole with
      | nil => exact absurd whole literal.wholeDigits.nonempty
      | cons digit others =>
          have isDigit := literal.wholeDigits.areDigits digit (by simp [whole])
          have starts : literal.unsignedText ++ rest = digit :: (others
              ++ (literal.fraction.elim [] ('.' :: ·)
                ++ literal.exponent.elim [] LiteralExponent.text) ++ rest) := by
            rw [Literal.unsignedText, whole]
            simp
          rw [starts] at cut
          rw [if_neg Bool.false_ne_true, List.nil_append, starts]
          exact tokens_of_cut (isSpace_digit isDigit) ((cutToken_digit _ isDigit).trans cut)

end Cutting

section Integers

variable {literal : Literal} {digits : List Char} {number : Number}

/-- A digit is the character for its value. -/
theorem digitChar_of_isDigit {digit : Char} (isDigit : digit.isDigit = true) :
    digit.toNat - '0'.toNat < 10 ∧ Nat.digitChar (digit.toNat - '0'.toNat) = digit := by
  have codes : 48 ≤ digit.toNat ∧ digit.toNat < 58 := by
    simp only [Char.isDigit, Bool.and_eq_true, decide_eq_true_eq] at isDigit
    exact ⟨isDigit.1, Nat.lt_succ_of_le isDigit.2⟩
  have named : ∀ code < 58, 48 ≤ code → Nat.digitChar (code - 48) = Char.ofNat code := by decide
  have zero : '0'.toNat = 48 := rfl
  rw [zero, named _ codes.2 codes.1, Char.ofNat_toNat]
  exact ⟨by omega, rfl⟩

/-- Digits without needless zeros in front are those of the number that they spell. -/
theorem naturalText_ofDigitChars (isDigits : IsDigits digits)
    (noLeadingZero : digits.head? = some '0' → digits = ['0']) :
    naturalText (Nat.ofDigitChars 10 digits 0) = digits := by
  obtain ⟨nonempty, areDigits, -⟩ := isDigits
  induction digits using List.reverseRecOn with
  | nil => exact absurd rfl nonempty
  | append_singleton front digit inductionHypothesis =>
      obtain ⟨small, digitIs⟩ := digitChar_of_isDigit (areDigits digit (by simp))
      have last : Nat.toDigits 10 (digit.toNat - '0'.toNat) = [digit] := by
        rw [Nat.toDigits_of_lt_base small, digitIs]
      rw [Nat.ofDigitChars_append, Nat.ofDigitChars_cons, Nat.ofDigitChars_nil, naturalText]
      cases front with
      | nil => simpa using last
      | cons first others =>
          have noZero : first ≠ '0' := by
            rintro rfl
            have short := noLeadingZero rfl
            simp at short
          have frontIs := inductionHypothesis (fun zero => absurd (Option.some.inj zero) noZero)
            (by simp) fun digit member => areDigits digit (List.mem_append_left _ member)
          have positive : 0 < Nat.ofDigitChars 10 (first :: others) 0 := by
            have firstIs := (digitChar_of_isDigit (areDigits first (by simp))).2
            have nonzero : 0 < first.toNat - '0'.toNat := by
              rw [Nat.pos_iff_ne_zero]
              intro zero
              rw [zero] at firstIs
              exact noZero firstIs.symm
            rw [Nat.ofDigitChars_cons, Nat.mul_zero, Nat.zero_add]
            exact Nat.lt_of_lt_of_le nonzero (le_ofDigitChars others _)
          rw [← Nat.toDigits_append_toDigits (by decide) positive small, last]
          exact congrArg (· ++ [digit]) frontIs

/-- All digits are gathered exactly when the number that they spell fits. -/
theorem gather_eq_nil_iff (digits : List Char) {significand : Nat}
    (small : significand < Numeral.significandBound) :
    (Numeral.gather significand digits).2 = [] ↔
      Nat.ofDigitChars 10 digits significand < Numeral.significandBound := by
  constructor
  · intro gathered
    induction digits generalizing significand with
    | nil => simpa using small
    | cons digit digits inductionHypothesis =>
        rw [Numeral.gather] at gathered
        split at gathered
        case isTrue fits =>
          have rest := inductionHypothesis fits gathered
          rwa [Nat.ofDigitChars_cons, Nat.mul_comm]
        case isFalse => simp at gathered
  · intro fits
    rw [gather_digits digits significand fits]

/-- The value that is computed for digits and an exponent is never an integer. -/
theorem exists_float_of_floatValue {negative : Bool} {significand : Nat} {exponent : Int}
    (computed : Numeral.floatValue negative significand exponent = .ok number) :
    ∃ value, number = .float value := by
  unfold Numeral.floatValue at computed
  dsimp only at computed
  split at computed
  · exact ⟨_, (Except.ok.inj computed).symm⟩
  · simp at computed

/-- An integer is read from its sign and its digits, and has no other text. -/
theorem Literal.IsInteger.parts (isInteger : literal.IsInteger) :
    literal.numeral = ⟨literal.negative, literal.whole, none, none⟩
      ∧ literal.text = (if literal.negative then ['-'] else []) ++ literal.whole := by
  obtain ⟨fraction, exponent⟩ := isInteger
  simp [Literal.numeral, Literal.text, Literal.unsignedText, fraction, exponent]

/-- An integer that fits is read as that integer, and written with the same text. -/
theorem exists_integer_of_fitsWord (isInteger : literal.IsInteger) (fits : literal.FitsWord) :
    ∃ value, literal.numeral.value = .ok (.integer value)
      ∧ (Number.integer value).text = literal.text := by
  have digits : naturalText literal.amount = literal.whole :=
    naturalText_ofDigitChars literal.wholeDigits literal.noLeadingZero
  rw [isInteger.parts.1, isInteger.parts.2, ← digits]
  unfold Literal.FitsWord at fits
  cases negative : literal.negative with
  | true =>
      rw [if_pos negative] at fits
      have below : -(literal.amount : Int) < 0 := by omega
      have read : Numeral.wholeValue true literal.amount = .integer (-literal.amount) := by
        rw [← wholeValue_natAbs (by omega), decide_eq_true below, Int.natAbs_neg,
          Int.natAbs_natCast]
      refine ⟨-literal.amount, by rw [value_naturalText _ (by omega), read], ?_⟩
      rw [Number.text, integerText, if_pos below, Int.natAbs_neg, Int.natAbs_natCast]
      rfl
  | false =>
      rw [negative, if_neg Bool.false_ne_true] at fits
      have above : ¬(literal.amount : Int) < 0 := by omega
      have read : Numeral.wholeValue false literal.amount = .integer literal.amount := by
        rw [← wholeValue_natAbs (by omega), decide_eq_false above, Int.natAbs_natCast]
      refine ⟨literal.amount, by rw [value_naturalText _ fits, read], ?_⟩
      rw [Number.text, integerText, if_neg above, Int.natAbs_natCast]
      rfl

/-- An integer that does not fit is read as a binary64 value, if at all. -/
theorem exists_float_of_not_fitsWord (isInteger : literal.IsInteger)
    (tooLarge : ¬literal.FitsWord) (read : literal.numeral.value = .ok number) :
    ∃ value, number = .float value := by
  have gathered := gather_eq_nil_iff literal.whole (by decide : 0 < Numeral.significandBound)
  rw [isInteger.parts.1] at read
  simp only [Numeral.value] at read
  split at read
  case h_1 gatheredAll =>
    rw [gatheredAll] at gathered
    have small : literal.amount < Numeral.significandBound := gathered.1 rfl
    rw [gather_digits literal.whole 0 small, ← Literal.amount] at read
    obtain rfl := Except.ok.inj read
    unfold Literal.FitsWord at tooLarge
    cases negative : literal.negative with
    | false =>
        rw [negative, if_neg Bool.false_ne_true] at tooLarge
        exact absurd small tooLarge
    | true =>
        rw [if_pos negative] at tooLarge
        have noWord : (literal.amount == 0 || decide (0x8000000000000000 < literal.amount)) =
            true := by
          rw [Bool.or_eq_true, beq_iff_eq, decide_eq_true_eq]
          omega
        exact ⟨_, by rw [Numeral.wholeValue, if_neg (by decide), if_pos noWord]⟩
  case h_2 =>
    exact exists_float_of_floatValue read

/-- The text of a binary64 value has a point or the mark of an exponent. -/
theorem exists_mark_of_float (value : Binary64) :
    ∃ character ∈ (Number.float value).text, character = '.' ∨ character = 'e' := by
  have ofDecimal (decimal : Decimal) (range : PointRange) :
      ∃ character ∈ decimal.text range, character = '.' ∨ character = 'e' := by
    unfold Decimal.text
    dsimp only
    split
    · refine ⟨'.', ?_, .inl rfl⟩
      unfold Decimal.positional
      dsimp only
      split
      · simp
      · split <;> simp
    · exact ⟨'e', by simp [Decimal.scientific], .inr rfl⟩
  rw [Number.text, Binary64.text]
  by_cases zero : value.isZero = true
  · rw [if_pos zero]
    exact ⟨'.', List.mem_append_right _ (by simp), .inl rfl⟩
  · rw [if_neg zero]
    obtain ⟨character, member, mark⟩ := ofDecimal value.shortest .data
    exact ⟨character, List.mem_append_right _ member, mark⟩

/-- The text of an integer has no character but digits and a minus sign. -/
theorem not_mem_of_isInteger (isInteger : literal.IsInteger) {character : Char}
    (noSign : character ≠ '-') (noDigit : character.isDigit = false) :
    character ∉ literal.text := by
  rw [isInteger.parts.2, List.mem_append, not_or]
  refine ⟨?_, literal.wholeDigits.not_mem noDigit⟩
  split
  · simpa using noSign
  · exact List.not_mem_nil

/-- An integer is written as it was spelled exactly when it fits. -/
theorem text_eq_iff_fitsWord (isInteger : literal.IsInteger)
    (read : literal.numeral.value = .ok number) :
    number.text = literal.text ↔ literal.FitsWord := by
  constructor
  · intro same
    by_contra tooLarge
    obtain ⟨value, rfl⟩ := exists_float_of_not_fitsWord isInteger tooLarge read
    obtain ⟨character, member, mark⟩ := exists_mark_of_float value
    rw [same] at member
    rcases mark with rfl | rfl
    · exact not_mem_of_isInteger isInteger (by decide) (by decide) member
    · exact not_mem_of_isInteger isInteger (by decide) (by decide) member
  · intro fits
    obtain ⟨value, readInteger, same⟩ := exists_integer_of_fitsWord isInteger fits
    obtain rfl := Except.ok.inj (read.symm.trans readInteger)
    exact same

end Integers

end DbSchema.Json
