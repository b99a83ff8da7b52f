import DbSchema.Number.Notation
import DbSchema.Proofs.Number.Rounding

/-!
# Shortest digits of rounded decimals

A decimal of at most fifteen digits is found again in the value that it is rounded to: the numbers
that are rounded to one value lie so close together that no other decimal with as few digits is
among them. `shortest_eq` says so. The search for the digits goes from coarse grids of decimals to
fine ones, and `searchDigits_eq` follows it to the first grid with a point near the value.
-/

namespace DbSchema

namespace Decimal

/-- The number that a decimal stands for. -/
def size (decimal : Decimal) : ℚ :=
  decimal.digits * 10 ^ decimal.exponent

/-- Whether the digits of a decimal have no zero at their end; those of zero have one. -/
def IsStripped (decimal : Decimal) : Prop :=
  decimal.digits % 10 ≠ 0

theorem IsStripped.positive {decimal : Decimal} (stripped : decimal.IsStripped) :
    0 < decimal.digits :=
  Nat.pos_iff_ne_zero.2 fun zero => stripped (by rw [zero])

/-- The zeros that are taken away from the end of a decimal are counted in its exponent. -/
theorem exists_stripZeros (fuel : Nat) (decimal : Decimal) :
    ∃ zeros : Nat, decimal.digits = (stripZeros fuel decimal).digits * 10 ^ zeros
      ∧ (stripZeros fuel decimal).exponent = decimal.exponent + zeros := by
  fun_induction stripZeros fuel decimal with
  | case1 | case3 => exact ⟨0, by simp⟩
  | case2 fuel decimal ends inductionHypothesis =>
      simp only [Bool.and_eq_true, beq_iff_eq] at ends
      obtain ⟨zeros, digitsAre, exponentIs⟩ := inductionHypothesis
      refine ⟨zeros + 1, ?_, ?_⟩
      · rw [pow_succ, ← mul_assoc, ← digitsAre]
        dsimp only
        omega
      · rw [exponentIs]
        push_cast
        ring

/-- Without the zeros at its end, a decimal stands for the same number. -/
theorem size_stripZeros (fuel : Nat) (decimal : Decimal) :
    (stripZeros fuel decimal).size = decimal.size := by
  obtain ⟨zeros, digitsAre, exponentIs⟩ := exists_stripZeros fuel decimal
  rw [size, size, digitsAre, exponentIs, zpow_add₀ (by norm_num), zpow_natCast]
  push_cast
  ring

/-- A decimal without zeros at its end is left as it is. -/
theorem IsStripped.stripZeros_eq {decimal : Decimal} (stripped : decimal.IsStripped) (fuel : Nat) :
    stripZeros fuel decimal = decimal := by
  unfold IsStripped at stripped
  cases fuel with
  | zero => rfl
  | succ fuel => simp [stripZeros, stripped]

/-- All zeros at the end of a decimal are taken away, if there is enough fuel for its digits. -/
theorem isStripped_stripZeros {fuel : Nat} {decimal : Decimal} (positive : 0 < decimal.digits)
    (enough : decimal.digits < 10 ^ fuel) : (stripZeros fuel decimal).IsStripped := by
  fun_induction stripZeros fuel decimal with
  | case1 => omega
  | case2 fuel decimal ends inductionHypothesis =>
      simp only [Bool.and_eq_true, beq_iff_eq] at ends
      refine inductionHypothesis ?_ ?_
      · dsimp only
        omega
      · rw [pow_succ] at enough
        dsimp only
        omega
  | case3 fuel decimal ends =>
      simp only [Bool.and_eq_true, bne_iff_ne, beq_iff_eq, not_and] at ends
      exact ends positive.ne'

/-- A decimal without zeros at its end is known by the number it stands for. -/
theorem IsStripped.eq_of_size_eq {left right : Decimal} (leftStripped : left.IsStripped)
    (rightStripped : right.IsStripped) (same : left.size = right.size) : left = right := by
  -- The digits of one that stands at a lower exponent would end in a zero.
  have exponents {low high : Decimal} (stripped : low.IsStripped) (same : low.size = high.size) :
      high.exponent ≤ low.exponent := by
    by_contra less
    obtain ⟨gap, exponentIs⟩ : ∃ gap : Nat, high.exponent = low.exponent + (gap + 1 : Nat) :=
      ⟨(high.exponent - low.exponent - 1).toNat, by omega⟩
    have power : (10 : ℚ) ^ low.exponent ≠ 0 := by positivity
    rw [size, size, exponentIs, zpow_add₀ (by norm_num), zpow_natCast, ← mul_assoc,
      mul_right_comm, mul_left_inj' power] at same
    have product : low.digits = high.digits * 10 ^ (gap + 1) := by exact_mod_cast same
    exact stripped (by rw [product, pow_succ, ← mul_assoc, Nat.mul_mod_left])
  have exponentIs := le_antisymm (exponents rightStripped same.symm) (exponents leftStripped same)
  have power : (10 : ℚ) ^ right.exponent ≠ 0 := by positivity
  rw [size, size, exponentIs, mul_left_inj' power] at same
  cases left
  cases right
  simp_all

/-- A decimal is a multiple of every lower power of ten. -/
theorem exists_multiple (decimal : Decimal) {exponent : Int}
    (lower : exponent ≤ decimal.exponent) :
    ∃ gap : Nat, decimal.size = (decimal.digits * 10 ^ gap : Nat) * 10 ^ exponent := by
  obtain ⟨gap, exponentIs⟩ : ∃ gap : Nat, decimal.exponent = gap + exponent :=
    ⟨(decimal.exponent - exponent).toNat, by omega⟩
  refine ⟨gap, ?_⟩
  rw [size, exponentIs, zpow_add₀ (by norm_num), zpow_natCast]
  push_cast
  ring

/-- Decimals that are nearer to each other than a power of ten that both are multiples of stand for
the same number. -/
theorem size_eq_of_near {left right : Decimal} {exponent : Int}
    (leftLower : exponent ≤ left.exponent) (rightLower : exponent ≤ right.exponent)
    (near : |left.size - right.size| < 10 ^ exponent) : left.size = right.size := by
  obtain ⟨leftGap, leftIs⟩ := exists_multiple left leftLower
  obtain ⟨rightGap, rightIs⟩ := exists_multiple right rightLower
  have power : (0 : ℚ) < 10 ^ exponent := by positivity
  rw [leftIs, rightIs] at near ⊢
  rw [← sub_mul, abs_mul, abs_of_pos power, mul_lt_iff_lt_one_left power] at near
  generalize left.digits * 10 ^ leftGap = first at *
  generalize right.digits * 10 ^ rightGap = second at *
  have close : |(first : ℤ) - second| < 1 := by exact_mod_cast near
  have same : first = second := by
    rw [Int.abs_lt_one_iff] at close
    omega
  rw [same]

/-- A decimal of few digits is less than a power of ten. -/
theorem size_lt_of_digits_lt {decimal : Decimal} {length : Nat}
    (few : decimal.digits < 10 ^ length) : decimal.size < 10 ^ length * 10 ^ decimal.exponent := by
  rw [size]
  gcongr
  exact_mod_cast few

/-- A decimal that is less than a power of ten has as few digits. -/
theorem digits_lt_of_size_lt {decimal : Decimal} {length : Nat}
    (short : decimal.size < 10 ^ (length + decimal.exponent)) : decimal.digits < 10 ^ length := by
  rw [size, zpow_add₀ (by norm_num), zpow_natCast] at short
  exact_mod_cast lt_of_mul_lt_mul_right short (by positivity)

/-- A decimal without zeros at its end is what is left of every other one that stands for the same
number. -/
theorem IsStripped.eq_stripZeros {fuel : Nat} {left right : Decimal} (stripped : left.IsStripped)
    (same : left.size = right.size) (enough : right.digits < 10 ^ fuel) :
    stripZeros fuel right = left := by
  have positive : 0 < right.digits := by
    rw [Nat.pos_iff_ne_zero]
    intro zero
    have digits : (left.digits : ℚ) ≠ 0 := by exact_mod_cast stripped.positive.ne'
    have power : (10 : ℚ) ^ left.exponent ≠ 0 := by positivity
    rw [size, size, zero, Nat.cast_zero, zero_mul] at same
    exact mul_ne_zero digits power same
  exact (isStripped_stripZeros positive enough).eq_of_size_eq stripped
    ((size_stripZeros fuel right).trans same.symm)

end Decimal

namespace Binary64

section Places

/-- The length of the digits of a number is the place of its first one. -/
theorem length_naturalText {number : Nat} (positive : 0 < number) :
    (10 : ℚ) ^ ((naturalText number).length - 1 : ℤ) ≤ number
      ∧ (number : ℚ) < 10 ^ ((naturalText number).length : ℤ) := by
  have fits (length : Nat) (nonzero : 0 < length) :
      (naturalText number).length ≤ length ↔ number < 10 ^ length :=
    Nat.length_toDigits_le_iff (by decide) nonzero
  have some : 0 < (naturalText number).length := Nat.length_toDigits_pos
  generalize (naturalText number).length = length at *
  obtain ⟨others, rfl⟩ : ∃ others, length = others + 1 := ⟨length - 1, by omega⟩
  have lower : 10 ^ others ≤ number := by
    cases others with
    | zero => exact positive
    | succ others => exact not_lt.1 fun less => absurd ((fits _ (by omega)).2 less) (by omega)
  have upper : number < 10 ^ (others + 1) := (fits _ some).1 (le_refl _)
  push_cast
  rw [add_sub_cancel_right, zpow_natCast, ← Nat.cast_one, ← Nat.cast_add, zpow_natCast]
  exact ⟨by exact_mod_cast lower, by exact_mod_cast upper⟩

/-- The places of a quotient are those of the powers of ten around it. -/
theorem decimalPlaces_spec {numerator denominator : Nat} (numeratorPositive : 0 < numerator)
    (denominatorPositive : 0 < denominator) :
    (10 : ℚ) ^ (decimalPlaces numerator denominator - 1) ≤ numerator / denominator
      ∧ (numerator / denominator : ℚ) < 10 ^ decimalPlaces numerator denominator := by
  have top : (0 : ℚ) < numerator := by exact_mod_cast numeratorPositive
  have bottom : (0 : ℚ) < denominator := by exact_mod_cast denominatorPositive
  unfold decimalPlaces
  rw [le_div_iff₀ bottom, div_lt_iff₀ bottom]
  split
  case isTrue above =>
    obtain ⟨lower, upper⟩ := length_naturalText (Nat.div_pos above denominatorPositive)
    have least : (numerator / denominator : Nat) * (denominator : ℚ) ≤ numerator := by
      exact_mod_cast Nat.div_mul_le_self numerator denominator
    have greatest : (numerator : ℚ) < 10 ^ ((naturalText (numerator / denominator)).length : ℤ)
        * denominator := by
      rw [zpow_natCast] at upper ⊢
      have whole :
          numerator / denominator < 10 ^ (naturalText (numerator / denominator)).length := by
        exact_mod_cast upper
      exact_mod_cast (Nat.div_lt_iff_lt_mul denominatorPositive).1 whole
    exact ⟨(mul_le_mul_of_nonneg_right lower bottom.le).trans least, greatest⟩
  case isFalse below =>
    have wholePositive : 0 < (denominator - 1) / numerator :=
      Nat.div_pos (by omega) numeratorPositive
    obtain ⟨lower, upper⟩ := length_naturalText wholePositive
    have last : (denominator - 1) / numerator * numerator < denominator := by
      have product := Nat.div_mul_le_self (denominator - 1) numerator
      omega
    have next : denominator ≤ ((denominator - 1) / numerator + 1) * numerator := by
      have product := Nat.lt_mul_of_div_lt (Nat.lt_add_one ((denominator - 1) / numerator))
        numeratorPositive
      omega
    dsimp only
    rw [← naturalText]
    generalize (naturalText ((denominator - 1) / numerator)).length = length at *
    generalize (denominator - 1) / numerator = whole at *
    have short : whole + 1 ≤ 10 ^ length := by
      rw [zpow_natCast] at upper
      exact_mod_cast upper
    have enough : denominator ≤ 10 ^ length * numerator :=
      next.trans (Nat.mul_le_mul_right _ short)
    rw [if_neg (by simpa using enough)]
    have places : 1 - Int.ofNat length = -(length - 1 : ℤ)
        ∧ 1 - Int.ofNat length - 1 = -(length : ℤ) := by
      rw [Int.ofNat_eq_natCast]
      omega
    rw [places.2, places.1, zpow_neg, zpow_neg, inv_mul_le_iff₀ (by positivity),
      lt_inv_mul_iff₀ (by positivity), zpow_natCast]
    refine ⟨by exact_mod_cast enough, ?_⟩
    calc (10 : ℚ) ^ (length - 1 : ℤ) * numerator ≤ whole * numerator := by gcongr
      _ < denominator := by exact_mod_cast last

end Places

section Grids

variable {interval : RoundingInterval} {stepTop stepBottom candidate : Nat} {left middle right : ℚ}

/-- What lies between two points of an interval is in it too. -/
theorem RoundingInterval.Contains.between (first : interval.Contains left)
    (last : interval.Contains right) (lower : left ≤ middle) (upper : middle ≤ right) :
    interval.Contains middle := by
  unfold RoundingInterval.Contains at *
  split at first
  case isTrue closed =>
    rw [if_pos closed] at last ⊢
    exact ⟨first.1.trans lower, upper.trans last.2⟩
  case isFalse opened =>
    rw [if_neg opened] at last ⊢
    exact ⟨first.1.trans_le lower, upper.trans_lt last.2⟩

/-- A candidate is accepted when its point of the grid lies in the interval. -/
theorem holds_iff (bottomPositive : 0 < stepBottom) :
    interval.holds candidate stepTop stepBottom = true ↔
      interval.Contains (candidate * (stepTop / stepBottom)) := by
  have positive : (0 : ℚ) < stepBottom := by exact_mod_cast bottomPositive
  unfold RoundingInterval.holds RoundingInterval.Contains
  rw [← mul_div_assoc, le_div_iff₀ positive, div_le_iff₀ positive, lt_div_iff₀ positive,
    div_lt_iff₀ positive]
  split
  · simp only [Bool.and_eq_true, decide_eq_true_eq]
    norm_cast
  · simp only [Bool.and_eq_true, decide_eq_true_eq]
    norm_cast

/-- What is found on a grid lies in the interval. -/
theorem contains_of_gridPoint? (bottomPositive : 0 < stepBottom)
    (found : gridPoint? interval stepTop stepBottom = some candidate) :
    interval.Contains (candidate * (stepTop / stepBottom)) := by
  rw [← holds_iff bottomPositive]
  simp only [gridPoint?] at found
  generalize interval.middle * stepBottom / stepTop = below at *
  split at found
  case h_1 belowHolds aboveHolds =>
    rw [Bool.and_eq_true] at belowHolds
    split_ifs at found <;> obtain rfl := Option.some.inj found
    · exact belowHolds.1
    · exact aboveHolds
    · exact belowHolds.1
    · exact aboveHolds
  case h_2 belowHolds aboveHolds =>
    rw [Bool.and_eq_true] at belowHolds
    obtain rfl := Option.some.inj found
    exact belowHolds.1
  case h_3 belowHolds aboveHolds =>
    obtain rfl := Option.some.inj found
    exact aboveHolds
  case h_4 => simp at found

/-- A grid with a point in the interval has one that is found. -/
theorem exists_gridPoint? (topPositive : 0 < stepTop) (bottomPositive : 0 < stepBottom)
    (central : interval.Contains interval.middle) (positive : 0 < candidate)
    (inside : interval.Contains (candidate * (stepTop / stepBottom))) :
    ∃ found, gridPoint? interval stepTop stepBottom = some found := by
  have top : (0 : ℚ) < stepTop := by exact_mod_cast topPositive
  have bottom : (0 : ℚ) < stepBottom := by exact_mod_cast bottomPositive
  have step : (0 : ℚ) < stepTop / stepBottom := by positivity
  -- One of the two points around the middle lies between it and the candidate.
  have around : (interval.holds (interval.middle * stepBottom / stepTop) stepTop stepBottom
        && interval.middle * stepBottom / stepTop != 0) = true
      ∨ interval.holds (interval.middle * stepBottom / stepTop + 1) stepTop stepBottom = true := by
    have lower : (interval.middle * stepBottom / stepTop : Nat) * ((stepTop : ℚ) / stepBottom) ≤
        interval.middle := by
      rw [← mul_div_assoc, div_le_iff₀ bottom]
      exact_mod_cast Nat.div_mul_le_self (interval.middle * stepBottom) stepTop
    have upper : (interval.middle : ℚ) ≤
        (interval.middle * stepBottom / stepTop + 1 : Nat) * ((stepTop : ℚ) / stepBottom) := by
      rw [← mul_div_assoc, le_div_iff₀ bottom]
      exact_mod_cast (Nat.lt_mul_of_div_lt (Nat.lt_add_one _) topPositive).le
    generalize interval.middle * stepBottom / stepTop = below at *
    rcases Nat.lt_or_ge below candidate with less | more
    · right
      rw [holds_iff bottomPositive]
      refine central.between inside upper ?_
      gcongr
      exact less
    · left
      rw [Bool.and_eq_true, bne_iff_ne, holds_iff bottomPositive]
      refine ⟨inside.between central ?_ lower, by omega⟩
      gcongr
  unfold gridPoint?
  dsimp only
  split
  · split_ifs <;> exact ⟨_, rfl⟩
  · exact ⟨_, rfl⟩
  · exact ⟨_, rfl⟩
  next belowFails aboveFails =>
    rw [belowFails, aboveFails] at around
    simp at around

end Grids

section Search

variable {interval : RoundingInterval} {unitTop unitBottom : Nat} {decimal : Decimal}

/-- The steps of a grid of decimals, in the unit of an interval. -/
theorem gridStep_eq (topPositive : 0 < unitTop) (bottomPositive : 0 < unitBottom)
    (exponent : Int) :
    let step := if 0 ≤ exponent then (Nat.pow 10 exponent.toNat * unitBottom, unitTop)
      else (unitBottom, Nat.pow 10 (-exponent).toNat * unitTop)
    0 < step.1 ∧ 0 < step.2 ∧ (step.1 / step.2 * (unitTop / unitBottom) : ℚ) = 10 ^ exponent := by
  have top : (unitTop : ℚ) ≠ 0 := by exact_mod_cast topPositive.ne'
  have bottom : (unitBottom : ℚ) ≠ 0 := by exact_mod_cast bottomPositive.ne'
  simp only [Nat.pow_eq]
  split
  case isTrue nonnegative =>
    obtain ⟨power, rfl⟩ := Int.eq_ofNat_of_zero_le nonnegative
    refine ⟨by positivity, topPositive, ?_⟩
    rw [Int.toNat_natCast, zpow_natCast]
    push_cast
    field_simp
  case isFalse negative =>
    obtain ⟨power, same⟩ := Int.eq_ofNat_of_zero_le (a := -exponent) (by omega)
    have exponentIs : exponent = -power := by omega
    refine ⟨bottomPositive, by positivity, ?_⟩
    rw [same, Int.toNat_natCast, exponentIs, zpow_neg, zpow_natCast]
    push_cast
    field_simp

/-- The search for digits finds a decimal in the interval, if the interval is so narrow that no
other decimal on the grids before is in it. -/
theorem searchDigits_eq {places : Int} (topPositive : 0 < unitTop) (bottomPositive : 0 < unitBottom)
    (stripped : decimal.IsStripped) (central : interval.Contains interval.middle)
    (inside : interval.Contains (decimal.size / (unitTop / unitBottom)))
    (narrow : ∀ point, interval.Contains point →
      |point * (unitTop / unitBottom) - decimal.size| < 10 ^ min decimal.exponent (places - 1))
    (short : decimal.size < 10 ^ (places + 1)) (fuel count : Nat)
    (here : count ≤ places - min decimal.exponent (places - 1))
    (reachable : places - min decimal.exponent (places - 1) < count + fuel)
    (few : count + fuel ≤ 19) :
    searchDigits interval unitTop unitBottom places fuel count = some decimal := by
  have unit : (0 : ℚ) < unitTop / unitBottom := by positivity
  induction fuel generalizing count with
  | zero => omega
  | succ fuel inductionHypothesis =>
      rw [searchDigits]
      obtain ⟨exponent, exponentIs⟩ : ∃ exponent, places - Int.ofNat count = exponent := ⟨_, rfl⟩
      obtain ⟨stepTopPositive, stepBottomPositive, stepIs⟩ :=
        gridStep_eq topPositive bottomPositive exponent
      simp only [exponentIs]
      generalize (if 0 ≤ exponent then (Nat.pow 10 exponent.toNat * unitBottom, unitTop)
        else (unitBottom, Nat.pow 10 (-exponent).toNat * unitTop)) = step at *
      rw [Int.ofNat_eq_natCast] at exponentIs
      -- A point of the grid as a decimal.
      have pointIs (digits : Nat) : digits * (step.1 / step.2 : ℚ) * (unitTop / unitBottom) =
          (⟨digits, exponent⟩ : Decimal).size := by
        rw [mul_assoc, stepIs]
        rfl
      split
      case h_1 digits found =>
        have near := narrow _ (contains_of_gridPoint? stepBottomPositive found)
        rw [pointIs] at near
        have same := Decimal.size_eq_of_near (by dsimp only; omega) (min_le_left _ _) near
        have fewer : digits < 10 ^ (count + 1) := by
          refine Decimal.digits_lt_of_size_lt (same ▸ short.trans_eq ?_)
          congr 1
          push_cast
          omega
        have bounded : 10 ^ (count + 1) ≤ 10 ^ 20 := Nat.pow_le_pow_right (by decide) (by omega)
        rw [stripped.eq_stripZeros same.symm (fewer.trans_le bounded)]
      case h_2 missing =>
        have later : (count : ℤ) ≠ places - min decimal.exponent (places - 1) := by
          intro last
          have lower : exponent ≤ decimal.exponent := by omega
          obtain ⟨gap, multiple⟩ := decimal.exists_multiple lower
          have point : (decimal.digits * 10 ^ gap : Nat) * (step.1 / step.2 : ℚ) =
              decimal.size / (unitTop / unitBottom) := by
            rw [eq_div_iff unit.ne', mul_assoc, stepIs, multiple]
          rw [← point] at inside
          have positive := stripped.positive
          obtain ⟨found, isFound⟩ :=
            exists_gridPoint? stepTopPositive stepBottomPositive central (by positivity) inside
          rw [isFound] at missing
          simp at missing
        exact inductionHypothesis (count + 1) (by omega) (by omega) (by omega)

end Search

section Values

variable {value : Binary64} {number point : ℚ}

/-- The numbers that are rounded to a value are at most half of the last place away from it. -/
theorem bounds_of_contains (least : 2 ^ 52 ≤ value.significand)
    (inside : value.roundingInterval.Contains point) :
    4 * (value.significand : ℚ) - 2 ≤ point ∧ point ≤ 4 * value.significand + 2 := by
  have bounds : (value.roundingInterval.low : ℚ) ≤ point
      ∧ point ≤ value.roundingInterval.high := by
    unfold RoundingInterval.Contains at inside
    split at inside
    · exact inside
    · exact ⟨inside.1.le, inside.2.le⟩
  rw [high_roundingInterval] at bounds
  rcases low_roundingInterval value least with low | ⟨-, low⟩
  all_goals
    rw [low] at bounds
    constructor <;> linarith

/-- A value is rounded to itself. -/
theorem contains_middle (least : 2 ^ 52 ≤ value.significand) :
    value.roundingInterval.Contains value.roundingInterval.middle := by
  have middle : (value.roundingInterval.middle : ℚ) = 4 * value.significand := by
    simp [roundingInterval]
  unfold RoundingInterval.Contains
  rw [high_roundingInterval, middle]
  rcases low_roundingInterval value least with low | ⟨-, low⟩
  all_goals
    rw [low]
    split <;> constructor <;> linarith

/-- A number is at most half of the last place away from the value that it is rounded to. -/
theorem Rounds.bounds (rounds : value.Rounds number) :
    (value.significand - 1 / 2) * 2 ^ value.exponent ≤ number
      ∧ number ≤ (value.significand + 1 / 2) * 2 ^ value.exponent := by
  have power : (0 : ℚ) < 2 ^ value.exponent := by positivity
  obtain ⟨lower, upper⟩ := bounds_of_contains rounds.least rounds.near
  rw [← le_div_iff₀ power, ← div_le_iff₀ power]
  constructor <;> linarith

/-- A value that numbers are rounded to has all its digits. -/
theorem Rounds.le_size (rounds : value.Rounds number) :
    (2 : ℚ) ^ 52 * 2 ^ value.exponent ≤ value.size := by
  rw [size]
  gcongr
  exact_mod_cast rounds.least

/-- The unit of the interval of a value is a quarter of its last place. -/
theorem unit_eq (exponent : Int) :
    let unit := if 0 ≤ exponent then (Nat.pow 2 exponent.toNat, 4)
      else (1, 4 * Nat.pow 2 (-exponent).toNat)
    0 < unit.1 ∧ 0 < unit.2 ∧ (unit.1 / unit.2 : ℚ) = 2 ^ exponent / 4 := by
  simp only [Nat.pow_eq]
  split
  case isTrue nonnegative =>
    obtain ⟨power, rfl⟩ := Int.eq_ofNat_of_zero_le nonnegative
    exact ⟨by positivity, Nat.succ_pos _, by simp⟩
  case isFalse negative =>
    obtain ⟨power, same⟩ := Int.eq_ofNat_of_zero_le (a := -exponent) (by omega)
    have exponentIs : exponent = -power := by omega
    refine ⟨Nat.succ_pos _, by positivity, ?_⟩
    rw [same, Int.toNat_natCast, exponentIs, zpow_neg, zpow_natCast]
    push_cast
    field_simp

section Decimals

variable {decimal : Decimal} {places : Int}

/-- The last place of a value is less than that of a decimal with at most fifteen digits which is
rounded to it, and less than the place behind the first digit of the value. -/
theorem lastPlace_lt (few : decimal.digits < 10 ^ 15) (rounds : value.Rounds decimal.size)
    (upper : value.size < 10 ^ places) :
    (2 : ℚ) ^ value.exponent < 10 ^ min decimal.exponent (places - 1) := by
  have power : (0 : ℚ) < 2 ^ value.exponent := by positivity
  have whole := rounds.le_size
  rcases min_choice decimal.exponent (places - 1) with same | same
  · have short := Decimal.size_lt_of_digits_lt few
    have lower := rounds.bounds.1
    rw [size] at whole
    rw [same]
    linarith
  · have place : (10 : ℚ) ^ places = 10 * 10 ^ (places - 1) := by
      rw [← zpow_one_add₀ (by norm_num)]
      congr 1
      ring
    rw [place] at upper
    rw [same]
    linarith

/-- The first digit of a value is not more than sixteen places before the last one of a decimal with
at most fifteen digits which is rounded to it. -/
theorem places_sub_exponent_le (few : decimal.digits < 10 ^ 15)
    (rounds : value.Rounds decimal.size) (lower : 10 ^ (places - 1) ≤ value.size) :
    places - decimal.exponent ≤ 17 := by
  have power : (0 : ℚ) < 2 ^ value.exponent := by positivity
  have whole := rounds.le_size
  have short := Decimal.size_lt_of_digits_lt few
  have near := rounds.bounds.1
  have bounded : (10 : ℚ) ^ (places - 1) < 10 ^ (16 + decimal.exponent) := by
    rw [zpow_add₀ (by norm_num)]
    rw [size] at lower whole
    norm_num
    linarith
  have exponents := (zpow_lt_zpow_iff_right₀ (by norm_num : (1 : ℚ) < 10)).1 bounded
  omega

/-- A value is not zero if a number is rounded to it. -/
theorem Rounds.isZero_eq (rounds : value.Rounds number) : value.isZero = false := by
  have least := rounds.least
  simp only [isZero, beq_eq_false_iff_ne]
  omega

/-- The digits of a decimal of at most fifteen of them are the shortest ones of the value that it is
rounded to. -/
theorem shortest_eq (few : decimal.digits < 10 ^ 15) (stripped : decimal.IsStripped)
    (rounds : value.Rounds decimal.size) : value.shortest = decimal := by
  have power : (0 : ℚ) < 2 ^ value.exponent := by positivity
  have whole := rounds.le_size
  have sizePositive : 0 < value.size := lt_of_lt_of_le (by positivity) whole
  obtain ⟨bottomPositive, magnitudeIs⟩ := magnitude_eq value
  have topPositive : 0 < value.magnitude.1 := by
    rw [Nat.pos_iff_ne_zero]
    intro zero
    rw [zero, Nat.cast_zero, zero_div] at magnitudeIs
    exact sizePositive.ne magnitudeIs
  obtain ⟨unitTopPositive, unitBottomPositive, unitIs⟩ := unit_eq value.exponent
  obtain ⟨sizeLower, sizeUpper⟩ := decimalPlaces_spec topPositive bottomPositive
  rw [magnitudeIs] at sizeLower sizeUpper
  simp only [shortest, rounds.isZero_eq, Bool.false_eq_true, if_false]
  generalize decimalPlaces value.magnitude.1 value.magnitude.2 = places at *
  generalize (if 0 ≤ value.exponent then (Nat.pow 2 value.exponent.toNat, 4)
    else (1, 4 * Nat.pow 2 (-value.exponent).toNat)) = unit at *
  have fine := lastPlace_lt few rounds sizeUpper
  have reachable := places_sub_exponent_le few rounds sizeLower
  have inside : value.roundingInterval.Contains (decimal.size / (unit.1 / unit.2)) := by
    have same : decimal.size / (unit.1 / unit.2 : ℚ) = 4 * (decimal.size / 2 ^ value.exponent) := by
      rw [unitIs]
      field_simp
    rw [same]
    exact rounds.near
  -- All numbers that are rounded to the value are less than a step of each grid apart.
  have narrow (point : ℚ) (contains : value.roundingInterval.Contains point) :
      |point * (unit.1 / unit.2) - decimal.size| < 10 ^ min decimal.exponent (places - 1) := by
    obtain ⟨lower, upper⟩ := rounds.bounds
    obtain ⟨pointLower, pointUpper⟩ := bounds_of_contains rounds.least contains
    have scaledLower := mul_le_mul_of_nonneg_right pointLower power.le
    have scaledUpper := mul_le_mul_of_nonneg_right pointUpper power.le
    refine lt_of_le_of_lt ?_ fine
    rw [unitIs, abs_le]
    constructor <;> linarith
  have short : decimal.size < 10 ^ (places + 1) := by
    have upper := rounds.bounds.2
    rw [size] at sizeUpper whole
    rw [zpow_add_one₀ (by norm_num)]
    linarith
  rw [searchDigits_eq unitTopPositive unitBottomPositive stripped (contains_middle rounds.least)
    inside narrow short 18 1 (by omega) (by omega) (by omega)]
  rfl

end Decimals

end Values

end Binary64

end DbSchema
