import DbSchema.Proofs.Json.Literals
import DbSchema.Proofs.Number.ShortestDigits
import Mathlib.Data.List.TakeWhile

/-!
# Literals of at most fifteen digits

A literal with a fraction or an exponent stands for a decimal, and is read as the binary64 value
that the decimal is rounded to, if its digits and the power of ten are values themselves. Written
again it is that decimal: the digits are found again in the value, and only the spelling may be
another one. `text_of_isShort` says so, and `canonicalText_eq_iff` which spelling is kept.
-/

namespace DbSchema

namespace Binary64

variable {left right value : Binary64} {number : ℚ}

/-- Another sign does not change what is rounded to the magnitude of a value. -/
theorem Rounds.withSign (rounds : value.Rounds number) (negative : Bool) :
    (value.withSign negative).Rounds number :=
  ⟨rounds.least, rounds.greatest, rounds.near⟩

/-- A quotient is rounded if the number that it stands for is neither too large nor too small. -/
theorem exists_rounds_of_eq (negative : Bool) {top bottom : Nat} (bottomPositive : 0 < bottom)
    (same : (top / bottom : ℚ) = number) (large : (2 : ℚ) ^ (-1000 : ℤ) ≤ number)
    (small : number ≤ 2 ^ (1000 : ℤ)) :
    ∃ value, ofQuotient? negative top bottom = some value ∧ value.Rounds number := by
  have positive : (0 : ℚ) < number := lt_of_lt_of_le (by positivity) large
  have topPositive : 0 < top := by
    rw [Nat.pos_iff_ne_zero]
    rintro rfl
    rw [Nat.cast_zero, zero_div] at same
    exact positive.ne same
  subst same
  obtain ⟨value, found, -, rounds⟩ :=
    exists_rounds negative topPositive bottomPositive large small
  exact ⟨value, found, rounds⟩

/-- Products that are neither too large nor too small are rounded. -/
theorem exists_rounds_multiply? (product : left.size * right.size = number)
    (large : (2 : ℚ) ^ (-1000 : ℤ) ≤ number) (small : number ≤ 2 ^ (1000 : ℤ)) :
    ∃ value, left.multiply? right = some value ∧ value.Rounds number := by
  obtain ⟨leftPositive, leftIs⟩ := magnitude_eq left
  obtain ⟨rightPositive, rightIs⟩ := magnitude_eq right
  refine exists_rounds_of_eq _ (by positivity) ?_ large small
  rw [← product, ← leftIs, ← rightIs]
  push_cast
  exact (div_mul_div_comm _ _ _ _).symm

/-- Quotients that are neither too large nor too small are rounded. -/
theorem exists_rounds_divide? (quotient : left.size / right.size = number)
    (large : (2 : ℚ) ^ (-1000 : ℤ) ≤ number) (small : number ≤ 2 ^ (1000 : ℤ)) :
    ∃ value, left.divide? right = some value ∧ value.Rounds number := by
  obtain ⟨leftPositive, leftIs⟩ := magnitude_eq left
  obtain ⟨rightPositive, rightIs⟩ := magnitude_eq right
  have positive : (0 : ℚ) < number := lt_of_lt_of_le (by positivity) large
  have rightTop : 0 < right.magnitude.1 := by
    rw [Nat.pos_iff_ne_zero]
    intro zero
    rw [← quotient, ← rightIs, zero, Nat.cast_zero, zero_div, div_zero] at positive
    exact lt_irrefl _ positive
  refine exists_rounds_of_eq _ (by positivity) ?_ large small
  rw [← quotient, ← leftIs, ← rightIs]
  push_cast
  exact (div_div_div_eq _ _ _ _).symm

end Binary64

namespace Json

open Binary64 in
/-- A power of ten up to the twenty-second is a value. -/
theorem exists_power {exponent : Nat} (small : exponent ≤ 22) :
    ∃ power, ofQuotient? false (Nat.pow 10 exponent) 1 = some power
      ∧ power.size = 10 ^ exponent := by
  have fits : 5 ^ exponent < 2 ^ 53 :=
    lt_of_le_of_lt (Nat.pow_le_pow_right (by decide) small) (by norm_num)
  obtain ⟨power, found, -, size⟩ :=
    exists_exact false (by positivity : 0 < 5 ^ exponent) fits (by omega : exponent ≤ 900)
  rw [← mul_pow] at found
  refine ⟨power, found, ?_⟩
  rw [size]
  push_cast
  rw [← mul_pow]
  norm_num

/-- Where a power of ten is in the table, it is computed once. -/
theorem scaleByTen_of_small (value : Binary64) {exponent : Int} (small : exponent.natAbs ≤ 22) :
    Numeral.scaleByTen 4 value exponent =
      (Binary64.ofQuotient? false (Nat.pow 10 exponent.natAbs) 1).bind fun power =>
        if 0 ≤ exponent then value.multiply? power else value.divide? power :=
  if_pos (by omega)

/-- Digits are scaled by a small power of ten with one rounding. -/
theorem exists_rounds_floatValue (negative : Bool) {significand : Nat} {exponent : Int}
    (positive : 0 < significand) (few : significand < 10 ^ 15) (small : exponent.natAbs ≤ 22) :
    ∃ value, Numeral.floatValue negative significand exponent = .ok (.float value)
      ∧ value.negative = negative ∧ value.Rounds (Decimal.size ⟨significand, exponent⟩) := by
  obtain ⟨whole, wholeFound, -, wholeSize⟩ := Binary64.exists_exact false positive
    (few.trans (by norm_num)) (by omega : 0 ≤ 900)
  obtain ⟨power, powerFound, powerSize⟩ := exists_power small
  rw [pow_zero, mul_one] at wholeFound wholeSize
  have one : (1 : ℚ) ≤ significand := by exact_mod_cast positive
  have bounded : (significand : ℚ) ≤ 10 ^ 15 := by exact_mod_cast few.le
  have large : (2 : ℚ) ^ (-1000 : ℤ) ≤ significand * 10 ^ exponent := by
    calc (2 : ℚ) ^ (-1000 : ℤ) ≤ 2 ^ (-100 : ℤ) :=
          zpow_le_zpow_right₀ (by norm_num) (by norm_num)
      _ ≤ 1 * 10 ^ (-22 : ℤ) := by norm_num
      _ ≤ significand * 10 ^ exponent := by
        gcongr
        · norm_num
        · omega
  have notLarge : (significand * 10 ^ exponent : ℚ) ≤ 2 ^ (1000 : ℤ) := by
    calc (significand * 10 ^ exponent : ℚ) ≤ 10 ^ 15 * 10 ^ (22 : ℤ) := by
          gcongr
          · norm_num
          · omega
      _ ≤ 2 ^ (200 : ℤ) := by norm_num
      _ ≤ 2 ^ (1000 : ℤ) := zpow_le_zpow_right₀ (by norm_num) (by norm_num)
  have scaled : ∃ value, Numeral.scaleByTen 4 whole exponent = some value
      ∧ value.Rounds (significand * 10 ^ exponent) := by
    rw [scaleByTen_of_small whole small, powerFound, Option.bind_some]
    split
    case isTrue nonnegative =>
      refine Binary64.exists_rounds_multiply? ?_ large notLarge
      rw [wholeSize, powerSize, ← zpow_natCast, Int.natAbs_of_nonneg nonnegative]
    case isFalse below =>
      refine Binary64.exists_rounds_divide? ?_ large notLarge
      have absolute : (exponent.natAbs : ℤ) = -exponent := by omega
      rw [wholeSize, powerSize, ← zpow_natCast, absolute, zpow_neg, div_inv_eq_mul]
  obtain ⟨value, found, rounds⟩ := scaled
  refine ⟨value.withSign negative, ?_, rfl, rounds.withSign negative⟩
  simp only [Numeral.floatValue, wholeFound, Option.bind_some, found]

/-- Zeros are scaled to zero. -/
theorem floatValue_zero (negative : Bool) {exponent : Int} (small : exponent.natAbs ≤ 22) :
    Numeral.floatValue negative 0 exponent = .ok (.float (.zero negative)) := by
  obtain ⟨power, powerFound, -⟩ := exists_power small
  have zero (sign : Bool) (bottom : Nat) : Binary64.ofQuotient? sign 0 bottom = some (.zero sign) :=
    rfl
  have scaled : ∃ sign, Numeral.scaleByTen 4 (.zero false) exponent = some (.zero sign) := by
    rw [scaleByTen_of_small _ small, powerFound, Option.bind_some]
    refine ⟨false != power.negative, ?_⟩
    have top : (Binary64.zero false).magnitude.1 = 0 := rfl
    split
    · simp only [Binary64.multiply?, top, Nat.zero_mul, zero]
      rfl
    · simp only [Binary64.divide?, top, Nat.zero_mul, zero]
      rfl
  obtain ⟨sign, found⟩ := scaled
  simp only [Numeral.floatValue, zero, Option.bind_some, found]
  rfl

namespace Literal

/-- The number that all digits of a literal spell. -/
def significand (literal : Literal) : Nat :=
  Nat.ofDigitChars 10 (literal.whole ++ literal.fraction.getD []) 0

/-- The number of the exponent of a literal. -/
def power (literal : Literal) : Int :=
  literal.exponent.elim 0 fun exponent =>
    let amount : Int := Nat.ofDigitChars 10 exponent.digits 0
    if exponent.sign == ['-'] then -amount else amount

/-- The decimal that a literal stands for, but for its sign. -/
def decimal (literal : Literal) : Decimal :=
  ⟨literal.significand, literal.power - (literal.fraction.getD []).length⟩

/-- Whether a literal is no integer and has at most fifteen digits, zeros in front of them apart,
the last of them not too far from the point, and an exponent that a reader takes as it is. -/
structure IsShort (literal : Literal) : Prop where
  noInteger : ¬literal.IsInteger
  digits : literal.significand < 10 ^ 15
  place : literal.decimal.exponent.natAbs ≤ 22
  power : literal.power.natAbs < 0x80000000

/-- The text by which the decimal of a literal is spelled: without needless zeros, and with an
exponent exactly where the point is far away. -/
def canonicalText (literal : Literal) : List Char :=
  (if literal.negative then ['-'] else []) ++
    (if literal.significand = 0 then ['0', '.', '0']
      else (Decimal.stripZeros 20 literal.decimal).text .data)

/-- Whether a literal has a fraction without needless zeros and no exponent: nothing but one zero
behind the point, or no zero at the end, and not more than four zeros between the point and the
digits. -/
structure IsPlain (literal : Literal) (places : List Char) : Prop where
  noExponent : literal.exponent = none
  hasFraction : literal.fraction = some places
  ending : places = ['0'] ∨ places.getLast? ≠ some '0'
  start : literal.whole = ['0'] → ¬List.replicate 5 '0' <+: places

end Literal

variable {literal : Literal}

/-- A short literal is read from all its digits. -/
theorem value_of_isShort (short : literal.IsShort) :
    literal.numeral.value =
      Numeral.floatValue literal.negative literal.significand literal.decimal.exponent := by
  have few : literal.significand < Numeral.significandBound := short.digits.trans (by decide)
  have spelled : literal.significand =
      Nat.ofDigitChars 10 (literal.fraction.getD []) (Nat.ofDigitChars 10 literal.whole 0) :=
    Nat.ofDigitChars_append _
  rw [spelled] at few
  have whole := gather_digits literal.whole 0 (lt_of_le_of_lt (le_ofDigitChars _ _) few)
  have places := gather_digits (literal.fraction.getD []) _ few
  have power := short.power
  have noInteger := short.noInteger
  unfold Literal.IsInteger at noInteger
  unfold Literal.decimal Literal.power at *
  rw [spelled]
  simp only [Numeral.value, Literal.numeral, whole]
  cases exponent : literal.exponent with
  | none =>
      cases fraction : literal.fraction with
      | none => exact absurd ⟨fraction, exponent⟩ noInteger
      | some digits =>
          rw [fraction] at places
          simp only [Option.getD_some] at places
          simp [places]
  | some exponent' =>
      simp only [exponent, Option.elim_some] at power
      have small : ¬0x80000000 ≤ Nat.ofDigitChars 10 exponent'.digits 0 := by
        split at power <;> omega
      cases fraction : literal.fraction
      all_goals
        rw [fraction] at places
        simp only [Option.getD_none, Option.getD_some] at places
        simp only [Option.map_some, Option.elim_some, Option.getD_none, Option.getD_some, places,
          if_neg small]
        congr 1
        split
        all_goals
          simp only [Int.ofNat_eq_natCast, List.length_nil, Nat.sub_zero]
          omega

/-- A short literal is read as a value that is written as the decimal of the literal. -/
theorem text_of_isShort (short : literal.IsShort) :
    ∃ value, literal.numeral.value = .ok (.float value)
      ∧ (Number.float value).text = literal.canonicalText := by
  rw [value_of_isShort short, Literal.canonicalText]
  by_cases zero : literal.significand = 0
  · rw [zero, floatValue_zero _ short.place]
    exact ⟨_, rfl, rfl⟩
  · have positive := Nat.pos_iff_ne_zero.2 zero
    obtain ⟨value, read, negative, rounds⟩ :=
      exists_rounds_floatValue literal.negative positive short.digits short.place
    have stripped : (Decimal.stripZeros 20 literal.decimal).IsStripped :=
      Decimal.isStripped_stripZeros positive (short.digits.trans (by decide))
    have few : (Decimal.stripZeros 20 literal.decimal).digits < 10 ^ 15 := by
      obtain ⟨zeros, digitsAre, -⟩ := Decimal.exists_stripZeros 20 literal.decimal
      have fewer := Nat.le_mul_of_pos_right (Decimal.stripZeros 20 literal.decimal).digits
        (by positivity : 0 < 10 ^ zeros)
      rw [← digitsAre] at fewer
      exact lt_of_le_of_lt fewer short.digits
    have found : value.shortest = Decimal.stripZeros 20 literal.decimal := by
      refine Binary64.shortest_eq few stripped ?_
      rw [Decimal.size_stripZeros]
      exact rounds
    refine ⟨value, read, ?_⟩
    rw [Number.text, Binary64.text, negative, rounds.isZero_eq, if_neg Bool.false_ne_true,
      if_neg zero, found]

section Plain

variable {places : List Char}

/-- Zeros behind the digits of a number are those of its multiples. -/
theorem naturalText_mul_pow {number : Nat} (positive : 0 < number) (zeros : Nat) :
    naturalText (number * 10 ^ zeros) = naturalText number ++ List.replicate zeros '0' := by
  induction zeros with
  | zero => simp
  | succ zeros inductionHypothesis =>
      have more : number * 10 ^ (zeros + 1) = 10 * (number * 10 ^ zeros) + 0 := by
        rw [pow_succ]
        ring
      unfold naturalText at *
      rw [more, ← Nat.toDigits_append_toDigits (by decide) (by positivity) (by decide),
        inductionHypothesis, List.replicate_succ', List.append_assoc]
      rfl

/-- A decimal is written positionally where its point is not too far away. -/
theorem text_eq_positional {decimal : Decimal}
    (near : -5 < ((naturalText decimal.digits).length + decimal.exponent : Int))
    (notFar : ((naturalText decimal.digits).length + decimal.exponent : Int) ≤ 16) :
    decimal.text .data = decimal.positional :=
  if_pos (by simp [PointRange.allows, PointRange.data, near, notFar])

/-- A number does not end in a zero if the digits behind it do not. -/
theorem ofDigitChars_mod_ten {digits : List Char} (isDigits : IsDigits digits)
    (noEnding : digits.getLast? ≠ some '0') (start : Nat) :
    Nat.ofDigitChars 10 digits start % 10 ≠ 0 := by
  obtain ⟨front, last, rfl⟩ :=
    (List.eq_nil_or_concat' digits).resolve_left isDigits.nonempty
  obtain ⟨small, lastIs⟩ := digitChar_of_isDigit (isDigits.areDigits last (by simp))
  rw [Nat.ofDigitChars_append, Nat.ofDigitChars_cons, Nat.ofDigitChars_nil, Nat.mul_add_mod,
    Nat.mod_eq_of_lt small]
  intro zero
  rw [zero] at lastIs
  exact noEnding (by rw [List.getLast?_concat, ← lastIs]; rfl)

/-- A whole number with one zero behind its point is spelled so again. -/
theorem text_of_wholeDecimal {number : Nat} (positive : 0 < number) (few : number < 10 ^ 15) :
    (Decimal.stripZeros 20 ⟨10 * number, -1⟩).text .data = naturalText number ++ ['.', '0'] := by
  obtain ⟨zeros, digitsAre, exponentIs⟩ := Decimal.exists_stripZeros 20 ⟨10 * number, -1⟩
  have stripped : (Decimal.stripZeros 20 ⟨10 * number, -1⟩).IsStripped :=
    Decimal.isStripped_stripZeros (by dsimp only; omega) (by dsimp only; omega)
  generalize Decimal.stripZeros 20 ⟨10 * number, -1⟩ = decimal at *
  dsimp only at digitsAre exponentIs
  obtain ⟨others, rfl⟩ : ∃ others, zeros = others + 1 := by
    refine Nat.exists_eq_succ_of_ne_zero ?_
    rintro rfl
    rw [pow_zero, mul_one] at digitsAre
    exact stripped (by rw [← digitsAre, Nat.mul_mod_right])
  have numberIs : number = decimal.digits * 10 ^ others := by
    rw [pow_succ] at digitsAre
    linarith
  have spelled := naturalText_mul_pow stripped.positive others
  rw [← numberIs] at spelled
  have length : (naturalText number).length ≤ 15 :=
    (Nat.length_toDigits_le_iff (by decide) (by decide)).2 few
  rw [spelled, List.length_append, List.length_replicate] at length
  rw [spelled, text_eq_positional (by omega) (by omega), Decimal.positional]
  have exponent : decimal.exponent = others := by
    push_cast at exponentIs
    omega
  simp [exponent]

/-- Digits behind and before the point are spelled so again, if they do not end in a zero. -/
theorem text_of_mixedDecimal {whole : List Char} (isWhole : IsDigits whole)
    (noLeadingZero : whole.head? ≠ some '0') (isPlaces : IsDigits places)
    (noEnding : places.getLast? ≠ some '0')
    (few : Nat.ofDigitChars 10 (whole ++ places) 0 < 10 ^ 15) :
    (Decimal.stripZeros 20 ⟨Nat.ofDigitChars 10 (whole ++ places) 0, -places.length⟩).text .data =
      whole ++ '.' :: places := by
  have wholeLong := List.length_pos_iff.2 isWhole.nonempty
  have placesLong := List.length_pos_iff.2 isPlaces.nonempty
  have isDigits : IsDigits (whole ++ places) :=
    ⟨List.append_ne_nil_of_left_ne_nil isWhole.nonempty _,
      fun digit member => (List.mem_append.1 member).elim (isWhole.areDigits digit)
        (isPlaces.areDigits digit), rfl⟩
  have spelled : naturalText (Nat.ofDigitChars 10 (whole ++ places) 0) = whole ++ places := by
    refine naturalText_ofDigitChars isDigits fun zero => absurd ?_ noLeadingZero
    rwa [List.head?_append_of_ne_nil _ isWhole.nonempty] at zero
  have length : (naturalText (Nat.ofDigitChars 10 (whole ++ places) 0)).length ≤ 15 :=
    (Nat.length_toDigits_le_iff (by decide) (by decide)).2 few
  have stripped : Decimal.IsStripped
      ⟨Nat.ofDigitChars 10 (whole ++ places) 0, -places.length⟩ := by
    rw [Decimal.IsStripped, Nat.ofDigitChars_append]
    exact ofDigitChars_mod_ten isPlaces noEnding _
  rw [spelled, List.length_append] at length
  rw [stripped.stripZeros_eq, text_eq_positional, Decimal.positional]
  all_goals
    simp only [spelled, List.length_append]
  · have point : Int.ofNat (whole.length + places.length) + -(places.length : Int) =
        whole.length := by
      simp only [Int.ofNat_eq_natCast]
      omega
    rw [if_neg (by omega), point, if_pos (by omega)]
    simp
  · omega
  · omega

/-- Digits behind the point only are spelled so again, if they do not end in a zero and not start
with too many of them. -/
theorem text_of_smallDecimal (isPlaces : IsDigits places) (noEnding : places.getLast? ≠ some '0')
    (near : ¬List.replicate 5 '0' <+: places) :
    (Decimal.stripZeros 20 ⟨Nat.ofDigitChars 10 places 0, -places.length⟩).text .data =
      '0' :: '.' :: places := by
  have stripped : Decimal.IsStripped ⟨Nat.ofDigitChars 10 places 0, -places.length⟩ :=
    ofDigitChars_mod_ten isPlaces noEnding 0
  rw [stripped.stripZeros_eq]
  clear stripped
  obtain ⟨zeros, digits, rfl, noLeadingZero⟩ : ∃ zeros digits,
      places = List.replicate zeros '0' ++ digits ∧ digits.head? ≠ some '0' := by
    refine ⟨(places.takeWhile (· == '0')).length, places.dropWhile (· == '0'), ?_, ?_⟩
    · have zeros : places.takeWhile (· == '0') =
          List.replicate (places.takeWhile (· == '0')).length '0' :=
        List.eq_replicate_of_mem fun digit member => by
          simpa using List.mem_takeWhile_imp member
      rw [← zeros, List.takeWhile_append_dropWhile]
    · intro zero
      have no := List.head?_dropWhile_not (· == '0') places
      rw [zero] at no
      simp at no
  have some : digits ≠ [] := by
    rintro rfl
    rw [List.append_nil] at noEnding isPlaces
    refine noEnding ?_
    rw [List.getLast?_replicate, if_neg]
    rintro rfl
    exact isPlaces.nonempty rfl
  have isDigits : IsDigits digits :=
    ⟨some, fun digit member => isPlaces.areDigits digit (List.mem_append_right _ member), rfl⟩
  have spelled : naturalText (Nat.ofDigitChars 10 digits 0) = digits :=
    naturalText_ofDigitChars isDigits fun zero => absurd zero noLeadingZero
  have few : zeros < 5 := by
    by_contra many
    refine near (List.IsPrefix.trans ?_ (List.prefix_append _ _))
    exact ⟨List.replicate (zeros - 5) '0', by rw [← List.replicate_add]; congr 1; omega⟩
  have long := List.length_pos_iff.2 some
  rw [Nat.ofDigitChars_append, Nat.ofDigitChars_replicate_zero, Nat.mul_zero,
    text_eq_positional, Decimal.positional]
  all_goals
    simp only [spelled, List.length_append, List.length_replicate]
  · have point : Int.ofNat digits.length + -((zeros + digits.length : Nat) : Int) = -zeros := by
      simp only [Int.ofNat_eq_natCast]
      omega
    rw [if_neg (by omega), point, if_neg (by omega)]
    simp
  · omega
  · omega

/-- A short literal without needless zeros that has no exponent is spelled canonically. -/
theorem canonicalText_of_isPlain (short : literal.IsShort) (plain : literal.IsPlain places) :
    literal.canonicalText = literal.text := by
  obtain ⟨noExponent, hasFraction, ending, start⟩ := plain
  have isPlaces := literal.fractionDigits places hasFraction
  have wholeIs : naturalText literal.amount = literal.whole :=
    naturalText_ofDigitChars literal.wholeDigits literal.noLeadingZero
  have significandIs : literal.significand =
      Nat.ofDigitChars 10 places literal.amount := by
    rw [Literal.significand, hasFraction, Option.getD_some, Nat.ofDigitChars_append, Literal.amount]
  have decimalIs : literal.decimal = ⟨literal.significand, -places.length⟩ := by
    simp [Literal.decimal, Literal.power, noExponent, hasFraction]
  have few := short.digits
  rw [Literal.canonicalText, Literal.text, Literal.unsignedText, noExponent, hasFraction,
    decimalIs, Option.elim_none, Option.elim_some, List.append_nil]
  rw [List.append_cancel_left_eq]
  rcases ending with rfl | noEnding
  · rw [Nat.ofDigitChars_cons, Nat.ofDigitChars_nil] at significandIs
    have zeroBehind : literal.significand = 10 * literal.amount := significandIs
    rw [zeroBehind]
    split
    case isTrue zero =>
      rw [← wholeIs, (by omega : literal.amount = 0)]
      rfl
    case isFalse nonzero =>
      have spelled := text_of_wholeDecimal (by omega : 0 < literal.amount) (by omega)
      rwa [wholeIs] at spelled
  · rw [significandIs, Literal.amount, ← Nat.ofDigitChars_append] at few ⊢
    by_cases leadingZero : literal.whole.head? = some '0'
    case pos =>
      have wholeZero := literal.noLeadingZero leadingZero
      have placesOnly : Nat.ofDigitChars 10 (['0'] ++ places) 0 = Nat.ofDigitChars 10 places 0 := by
        rw [List.singleton_append, Nat.ofDigitChars_cons]
        rfl
      have nonzero : Nat.ofDigitChars 10 places 0 ≠ 0 := fun zero =>
        ofDigitChars_mod_ten isPlaces noEnding 0 (by rw [zero])
      rw [wholeZero, placesOnly, if_neg nonzero,
        text_of_smallDecimal isPlaces noEnding (start wholeZero)]
      rfl
    case neg =>
      have nonzero : Nat.ofDigitChars 10 (literal.whole ++ places) 0 ≠ 0 := by
        intro zero
        rw [Nat.ofDigitChars_append] at zero
        exact ofDigitChars_mod_ten isPlaces noEnding _ (by rw [zero])
      rw [if_neg nonzero,
        text_of_mixedDecimal literal.wholeDigits leadingZero isPlaces noEnding few]

/-- The digits of a number do not end in a zero if the number does not. -/
theorem getLast?_naturalText {number : Nat} (noEnding : number % 10 ≠ 0) :
    (naturalText number).getLast? ≠ some '0' := by
  intro ending
  obtain ⟨front, split⟩ := List.getLast?_eq_some_iff.1 ending
  have value : Nat.ofDigitChars 10 (naturalText number) 0 = number :=
    Nat.ofDigitChars_toDigits (by decide) (by decide)
  rw [split, Nat.ofDigitChars_append, Nat.ofDigitChars_cons, Nat.ofDigitChars_nil] at value
  exact noEnding (by rw [← value]; exact Nat.mul_mod_right 10 _)

/-- A text of digits with a point has one reading. -/
theorem append_point_inj {whole : List Char} (isWhole : IsDigits whole)
    (isPlaces : IsDigits places) (front behind : List Char) :
    front ++ '.' :: behind = whole ++ '.' :: places ↔ front = whole ∧ behind = places := by
  rw [eq_comm, List.append_cons_inj_of_notMem (isWhole.not_mem (by decide))
    (isPlaces.not_mem (by decide))]
  simp [eq_comm]

/-- A decimal that is written without an exponent has no needless zeros behind its point. -/
theorem plain_of_text_eq {decimal : Decimal} (stripped : decimal.IsStripped) {whole : List Char}
    (isWhole : IsDigits whole) (isPlaces : IsDigits places)
    (same : decimal.text .data = whole ++ '.' :: places) :
    (places = ['0'] ∨ places.getLast? ≠ some '0')
      ∧ (whole = ['0'] → ¬List.replicate 5 '0' <+: places) := by
  have ending := getLast?_naturalText stripped
  have start : (naturalText decimal.digits).head? ≠ some '0' :=
    head_naturalText stripped.positive
  have long : 0 < (naturalText decimal.digits).length := Nat.length_toDigits_pos
  unfold Decimal.text at same
  dsimp only at same
  split at same
  case isFalse =>
    have marked : 'e' ∈ whole ++ '.' :: places := by
      rw [← same, Decimal.scientific]
      simp
    rcases List.mem_append.1 marked with member | member
    · exact absurd member (isWhole.not_mem (by decide))
    · have behind := (List.mem_cons.1 member).resolve_left (by decide)
      exact absurd behind (isPlaces.not_mem (by decide))
  case isTrue allowed =>
    have near : -5 < Int.ofNat (naturalText decimal.digits).length + decimal.exponent := by
      simp only [PointRange.allows, PointRange.data, Option.all_some, Bool.and_eq_true,
        decide_eq_true_eq] at allowed
      exact allowed.2
    unfold Decimal.positional at same
    dsimp only at same
    generalize naturalText decimal.digits = digits at *
    split at same
    case isTrue =>
      obtain ⟨-, rfl⟩ := (append_point_inj isWhole isPlaces _ _).1 same
      exact ⟨.inl rfl, fun _ => by decide⟩
    case isFalse below =>
      split at same
      case isTrue between =>
        rw [List.append_assoc, List.singleton_append] at same
        obtain ⟨rfl, rfl⟩ := (append_point_inj isWhole isPlaces _ _).1 same
        refine ⟨.inr ?_, fun zero => absurd ?_ start⟩
        · rwa [List.getLast?_drop, if_neg (by simp only [Int.ofNat_eq_natCast] at *; omega)]
        · have first := congrArg List.head? zero
          rwa [List.head?_take, if_neg (by omega)] at first
      case isFalse small =>
        rw [List.append_assoc] at same
        generalize zerosAre : (-(Int.ofNat digits.length + decimal.exponent)).toNat = zeros at *
        obtain ⟨-, rfl⟩ :=
          (append_point_inj isWhole isPlaces ['0'] (List.replicate zeros '0' ++ digits)).1 same
        refine ⟨.inr ?_, fun _ many => start ?_⟩
        · rwa [List.getLast?_append_of_ne_nil _ (List.ne_nil_of_length_pos long)]
        · obtain ⟨more, fiveIs⟩ : ∃ more, 5 = zeros + (more + 1) := ⟨4 - zeros, by omega⟩
          rw [fiveIs, List.replicate_add, List.prefix_append_right_inj,
            List.replicate_succ] at many
          obtain ⟨others, rfl⟩ := many
          rfl

/-- A short literal without an exponent is spelled canonically exactly when it is plain. -/
theorem canonicalText_eq_iff (short : literal.IsShort) (noExponent : literal.exponent = none) :
    literal.canonicalText = literal.text ↔ ∃ places, literal.IsPlain places := by
  constructor
  · intro same
    cases fraction : literal.fraction with
    | none => exact absurd ⟨fraction, noExponent⟩ short.noInteger
    | some places =>
        have isPlaces := literal.fractionDigits places fraction
        rw [Literal.canonicalText, Literal.text, Literal.unsignedText, noExponent, fraction,
          Option.elim_none, Option.elim_some, List.append_nil, List.append_cancel_left_eq] at same
        split at same
        case isTrue =>
          obtain ⟨-, rfl⟩ := (append_point_inj literal.wholeDigits isPlaces ['0'] ['0']).1 same
          exact ⟨_, noExponent, fraction, .inl rfl, fun _ => by decide⟩
        case isFalse nonzero =>
          have stripped : (Decimal.stripZeros 20 literal.decimal).IsStripped :=
            Decimal.isStripped_stripZeros (Nat.pos_iff_ne_zero.2 nonzero)
              (short.digits.trans (by decide))
          obtain ⟨ending, start⟩ := plain_of_text_eq stripped literal.wholeDigits isPlaces same
          exact ⟨places, noExponent, fraction, ending, start⟩
  · rintro ⟨places, plain⟩
    exact canonicalText_of_isPlain short plain

end Plain

end Json

end DbSchema
