import DbSchema.Number.Shortest
import Mathlib.Algebra.Order.Field.Power
import Mathlib.Data.Rat.Cast.Order
import Mathlib.Tactic.FieldSimp
import Mathlib.Tactic.Linarith
import Mathlib.Tactic.Positivity
import Mathlib.Tactic.Ring

/-!
# Rounding to binary64 values

What rounding a quotient gives, in terms of the rational numbers that values and quotients stand
for. `Rounds` says that a value is the nearest one: the number lies in the interval of the numbers
that round to the value. `exists_rounds` finds such a value for every quotient that is neither too
large nor too small, and natural numbers of 53 bits are values themselves.
-/

namespace DbSchema.Binary64

/-- The magnitude of a value as a rational number. -/
def size (value : Binary64) : ℚ :=
  value.significand * 2 ^ value.exponent

/-- Whether a point, in quarters of the last place, lies in an interval. -/
def RoundingInterval.Contains (interval : RoundingInterval) (point : ℚ) : Prop :=
  if interval.closed then interval.low ≤ point ∧ point ≤ interval.high
  else interval.low < point ∧ point < interval.high

/-- Whether a value of 53 bits is the one that a number is rounded to. -/
structure Rounds (value : Binary64) (number : ℚ) : Prop where
  least : 2 ^ 52 ≤ value.significand
  greatest : value.significand < 2 ^ 53
  near : value.roundingInterval.Contains (4 * (number / 2 ^ value.exponent))

/-- The magnitude as a quotient stands for the magnitude. -/
theorem magnitude_eq (value : Binary64) :
    0 < value.magnitude.2 ∧ (value.magnitude.1 : ℚ) / value.magnitude.2 = value.size := by
  unfold magnitude size
  split
  case isTrue nonnegative =>
    obtain ⟨exponent, same⟩ := Int.eq_ofNat_of_zero_le nonnegative
    simp [same]
  case isFalse negative =>
    obtain ⟨exponent, same⟩ := Int.eq_ofNat_of_zero_le (a := -value.exponent) (by omega)
    have exponentIs : value.exponent = -exponent := by omega
    simp [exponentIs, div_eq_mul_inv]

/-- A quotient is divided by a power of two. -/
theorem scaled_eq (numerator : Nat) {denominator : Nat} (positive : 0 < denominator)
    (exponent : Int) :
    0 < (scaled numerator denominator exponent).2
      ∧ ((scaled numerator denominator exponent).1 : ℚ)
          / (scaled numerator denominator exponent).2 =
        numerator / denominator / 2 ^ exponent := by
  unfold scaled
  split
  case isTrue nonnegative =>
    obtain ⟨power, rfl⟩ := Int.eq_ofNat_of_zero_le nonnegative
    refine ⟨by simp [positive], ?_⟩
    simp [div_div]
  case isFalse negative =>
    obtain ⟨power, same⟩ := Int.eq_ofNat_of_zero_le (a := -exponent) (by omega)
    have exponentIs : exponent = -power := by omega
    refine ⟨positive, ?_⟩
    simp [exponentIs]
    ring

section Significands

/-- A quotient is rounded by at most a half, and to an even number where it is one. -/
theorem roundedQuotient_near (top : Nat) {bottom : Nat} (positive : 0 < bottom) :
    (roundedQuotient top bottom : ℚ) - 1 / 2 ≤ top / bottom
      ∧ (top / bottom : ℚ) ≤ roundedQuotient top bottom + 1 / 2
      ∧ (roundedQuotient top bottom % 2 = 1 →
        (roundedQuotient top bottom : ℚ) - 1 / 2 < top / bottom
          ∧ (top / bottom : ℚ) < roundedQuotient top bottom + 1 / 2) := by
  have parts := Nat.div_add_mod top bottom
  have remainder := Nat.mod_lt top positive
  have bottomPositive : (0 : ℚ) < bottom := by exact_mod_cast positive
  have bounds : 2 * (roundedQuotient top bottom * bottom) ≤ 2 * top + bottom
      ∧ 2 * top ≤ 2 * (roundedQuotient top bottom * bottom) + bottom
      ∧ (roundedQuotient top bottom % 2 = 1 →
        2 * (roundedQuotient top bottom * bottom) < 2 * top + bottom
          ∧ 2 * top < 2 * (roundedQuotient top bottom * bottom) + bottom) := by
    have next : (top / bottom + 1) * bottom = bottom * (top / bottom) + bottom := by ring
    have same : top / bottom * bottom = bottom * (top / bottom) := Nat.mul_comm _ _
    simp only [roundedQuotient, beq_iff_eq]
    split
    · rw [same]
      omega
    · split
      · rw [next]
        omega
      · split
        · rw [same]
          omega
        · rw [next]
          omega
  obtain ⟨lower, upper, strict⟩ := bounds
  refine ⟨?_, ?_, fun odd => ⟨?_, ?_⟩⟩
  · have lower : (2 : ℚ) * (roundedQuotient top bottom * bottom) ≤ 2 * top + bottom := by
      exact_mod_cast lower
    rw [le_div_iff₀ bottomPositive]
    linarith
  · have upper : (2 : ℚ) * top ≤ 2 * (roundedQuotient top bottom * bottom) + bottom := by
      exact_mod_cast upper
    rw [div_le_iff₀ bottomPositive]
    linarith
  · have lower : (2 : ℚ) * (roundedQuotient top bottom * bottom) < 2 * top + bottom := by
      exact_mod_cast (strict odd).1
    rw [lt_div_iff₀ bottomPositive]
    linarith
  · have upper : (2 : ℚ) * top < 2 * (roundedQuotient top bottom * bottom) + bottom := by
      exact_mod_cast (strict odd).2
    rw [div_lt_iff₀ bottomPositive]
    linarith

/-- A quotient without remainder is not changed. -/
theorem roundedQuotient_mul (number : Nat) {bottom : Nat} (positive : 0 < bottom) :
    roundedQuotient (number * bottom) bottom = number := by
  simp [roundedQuotient, positive]

end Significands

section Exponents

variable {numerator denominator : Nat}

/-- A number lies between the powers of two around its logarithm. -/
theorem log2_bounds {number : Nat} (positive : 0 < number) :
    (2 : ℚ) ^ (number.log2 : ℤ) ≤ number ∧ (number : ℚ) < 2 ^ (number.log2 + 1 : ℤ) := by
  have lower := Nat.log2_self_le (Nat.pos_iff_ne_zero.1 positive)
  have upper := Nat.lt_log2_self (n := number)
  constructor
  · rw [zpow_natCast]
    exact_mod_cast lower
  · have same : (number.log2 + 1 : ℤ) = ((number.log2 + 1 : Nat) : ℤ) := by push_cast; rfl
    rw [same, zpow_natCast]
    exact_mod_cast upper

/-- The exponent is the guess by the logarithms, or one less, so that the significand has not less
than 53 bits. -/
theorem exponentOf_eq {guess : ℤ} (denominatorPositive : 0 < denominator)
    (guessed : (numerator.log2 : ℤ) - denominator.log2 - 52 = guess)
    (large : leastExponent < guess) :
    exponentOf numerator denominator =
      if (numerator / denominator / 2 ^ guess : ℚ) < 2 ^ 52 then guess - 1 else guess := by
  obtain ⟨bottomPositive, quotientIs⟩ := scaled_eq numerator denominatorPositive guess
  simp only [exponentOf, Int.ofNat_eq_natCast, guessed]
  generalize scaled numerator denominator guess = parts at *
  obtain ⟨top, bottom⟩ := parts
  have positive : (0 : ℚ) < bottom := by exact_mod_cast bottomPositive
  have small : top < Nat.pow 2 52 * bottom ↔
      (numerator / denominator / 2 ^ guess : ℚ) < 2 ^ 52 := by
    rw [← quotientIs, div_lt_iff₀ positive]
    exact_mod_cast Iff.rfl
  simp only [small]
  split <;> rw [if_neg (by omega)]

/-- At its exponent, a quotient that is not too small has a significand of 53 bits. -/
theorem exponentOf_spec (numeratorPositive : 0 < numerator) (denominatorPositive : 0 < denominator)
    (large : (2 : ℚ) ^ (-1000 : ℤ) ≤ numerator / denominator) :
    (2 : ℚ) ^ 52 ≤ numerator / denominator / 2 ^ exponentOf numerator denominator
      ∧ (numerator / denominator / 2 ^ exponentOf numerator denominator : ℚ) < 2 ^ 53 := by
  obtain ⟨numeratorLower, numeratorUpper⟩ := log2_bounds numeratorPositive
  obtain ⟨denominatorLower, denominatorUpper⟩ := log2_bounds denominatorPositive
  have positive : (0 : ℚ) < denominator := by exact_mod_cast denominatorPositive
  obtain ⟨guess, guessed⟩ : ∃ guess, (numerator.log2 : ℤ) - denominator.log2 - 52 = guess :=
    ⟨_, rfl⟩
  have lower : (2 : ℚ) ^ (guess + 51) < numerator / denominator := by
    rw [lt_div_iff₀ positive]
    calc (2 : ℚ) ^ (guess + 51) * denominator
        < 2 ^ (guess + 51) * 2 ^ (denominator.log2 + 1 : ℤ) := by gcongr
      _ = 2 ^ (numerator.log2 : ℤ) := by
        rw [← zpow_add₀ two_ne_zero, ← guessed]
        congr 1
        ring
      _ ≤ numerator := numeratorLower
  have upper : (numerator / denominator : ℚ) < 2 ^ (guess + 53) := by
    rw [div_lt_iff₀ positive]
    calc (numerator : ℚ) < 2 ^ (numerator.log2 + 1 : ℤ) := numeratorUpper
      _ = 2 ^ (guess + 53) * 2 ^ (denominator.log2 : ℤ) := by
        rw [← zpow_add₀ two_ne_zero, ← guessed]
        congr 1
        ring
      _ ≤ 2 ^ (guess + 53) * denominator := by gcongr
  have inRange : leastExponent < guess := by
    have above := (zpow_lt_zpow_iff_right₀ (by norm_num : (1 : ℚ) < 2)).1 (large.trans_lt upper)
    simp only [leastExponent]
    omega
  rw [exponentOf_eq denominatorPositive guessed inRange]
  generalize (numerator / denominator : ℚ) = quotient at *
  have power : (0 : ℚ) < 2 ^ guess := by positivity
  rw [zpow_add₀ two_ne_zero] at lower upper
  split
  case isTrue small =>
    rw [div_lt_iff₀ power] at small
    rw [zpow_sub_one₀ two_ne_zero, le_div_iff₀ (by positivity), div_lt_iff₀ (by positivity)]
    norm_num at small lower ⊢
    constructor <;> linarith
  case isFalse notSmall =>
    refine ⟨not_lt.1 notSmall, ?_⟩
    rw [div_lt_iff₀ power]
    norm_num at upper ⊢
    linarith

end Exponents

section Values

variable {value : Binary64} {negative : Bool} {significand : Nat} {exponent : ℤ} {number point : ℚ}

/-- The lower bound of the numbers that are rounded to a value. -/
theorem low_roundingInterval (value : Binary64) (least : 2 ^ 52 ≤ value.significand) :
    (value.roundingInterval.low : ℚ) = 4 * value.significand - 2
      ∨ value.significand = 2 ^ 52
        ∧ (value.roundingInterval.low : ℚ) = 4 * value.significand - 1 := by
  simp only [roundingInterval, Nat.pow_eq, Bool.and_eq_true, beq_iff_eq]
  split
  case isTrue near =>
    refine .inr ⟨near.1, ?_⟩
    rw [Nat.cast_sub (by omega)]
    push_cast
    rfl
  case isFalse =>
    refine .inl ?_
    rw [Nat.cast_sub (by omega)]
    push_cast
    rfl

/-- The upper bound of the numbers that are rounded to a value. -/
theorem high_roundingInterval : (value.roundingInterval.high : ℚ) = 4 * value.significand + 2 := by
  simp [roundingInterval]

/-- The bounds are rounded to a value exactly when its significand is even. -/
theorem closed_roundingInterval :
    value.roundingInterval.closed = true ↔ value.significand % 2 = 0 := by
  simp [roundingInterval]

/-- A significand that a number is nearest to makes a value that the number is rounded to. -/
theorem rounds_of_near (least : 2 ^ 52 ≤ significand) (greatest : significand < 2 ^ 53)
    (above : 2 ^ 52 ≤ number / 2 ^ exponent)
    (lower : (significand : ℚ) - 1 / 2 ≤ number / 2 ^ exponent)
    (upper : number / 2 ^ exponent ≤ significand + 1 / 2)
    (strict : significand % 2 = 1 → (significand : ℚ) - 1 / 2 < number / 2 ^ exponent
      ∧ number / 2 ^ exponent < significand + 1 / 2) :
    Rounds ⟨negative, significand, exponent⟩ number := by
  refine ⟨least, greatest, ?_⟩
  rw [RoundingInterval.Contains, high_roundingInterval]
  dsimp only
  rcases low_roundingInterval ⟨negative, significand, exponent⟩ least
    with low | ⟨power, low⟩
  all_goals rw [low]; dsimp only
  · split
    · constructor <;> linarith
    · next notClosed =>
      have odd : significand % 2 = 1 :=
        Nat.mod_two_ne_zero.1 fun even => notClosed (closed_roundingInterval.2 even)
      obtain ⟨lower, upper⟩ := strict odd
      constructor <;> linarith
  · have even : (⟨negative, significand, exponent⟩ : Binary64).roundingInterval.closed = true := by
      rw [closed_roundingInterval]
      omega
    dsimp only at power
    rw [if_pos even, power]
    rw [power] at upper
    push_cast at upper ⊢
    constructor <;> linarith

/-- A number that is nearest to the next power of two is rounded to the least significand at the
next exponent. -/
theorem rounds_of_carry (lower : 2 ^ 53 - 1 / 2 ≤ number / 2 ^ exponent)
    (upper : number / 2 ^ exponent < 2 ^ 53) :
    Rounds ⟨negative, 2 ^ 52, exponent + 1⟩ number := by
  refine ⟨le_refl _, by norm_num, ?_⟩
  have half : number / 2 ^ (exponent + 1) = number / 2 ^ exponent / 2 := by
    rw [zpow_add_one₀ two_ne_zero, div_div]
  have even : (⟨negative, 2 ^ 52, exponent + 1⟩ : Binary64).roundingInterval.closed = true := by
    rw [closed_roundingInterval]
    dsimp only
    omega
  rw [RoundingInterval.Contains, if_pos even, high_roundingInterval]
  rcases low_roundingInterval ⟨negative, 2 ^ 52, exponent + 1⟩ (le_refl _)
    with low | ⟨-, low⟩
  all_goals
    rw [low]
    simp only [half]
    push_cast
    constructor <;> linarith

end Values

section Quotients

variable {numerator denominator : Nat}

/-- A quotient that is neither too large nor too small is rounded at its exponent, where a
significand that does not fit 53 bits any more moves to the next one. -/
theorem ofQuotient?_eq (negative : Bool) (numeratorPositive : 0 < numerator)
    (denominatorPositive : 0 < denominator)
    (large : (2 : ℚ) ^ (-1000 : ℤ) ≤ numerator / denominator)
    (small : (numerator / denominator : ℚ) ≤ 2 ^ (1000 : ℤ)) :
    ofQuotient? negative numerator denominator =
      let exponent := exponentOf numerator denominator
      let parts := scaled numerator denominator exponent
      some (if roundedQuotient parts.1 parts.2 = 2 ^ 53 then ⟨negative, 2 ^ 52, exponent + 1⟩
        else ⟨negative, roundedQuotient parts.1 parts.2, exponent⟩) := by
  obtain ⟨above, -⟩ := exponentOf_spec numeratorPositive denominatorPositive large
  have nonzero : ¬numerator = 0 := by omega
  simp only [ofQuotient?, beq_iff_eq, if_neg nonzero, Nat.pow_eq]
  generalize exponentOf numerator denominator = exponent at *
  have inRange : exponent + 1 ≤ greatestExponent := by
    have power : (0 : ℚ) < 2 ^ exponent := by positivity
    have bounded : (2 : ℚ) ^ (52 + exponent) ≤ 2 ^ (1000 : ℤ) := by
      rw [zpow_add₀ two_ne_zero]
      exact ((le_div_iff₀ power).1 above).trans small
    have ordered := (zpow_le_zpow_iff_right₀ (by norm_num : (1 : ℚ) < 2)).1 bounded
    simp only [greatestExponent]
    omega
  split
  · rw [if_neg (Int.not_lt.2 inRange)]
  · have noOverflow : ¬greatestExponent < exponent := by omega
    rw [if_neg noOverflow]

/-- Every quotient that is neither too large nor too small is rounded to a value. -/
theorem exists_rounds (negative : Bool) (numeratorPositive : 0 < numerator)
    (denominatorPositive : 0 < denominator)
    (large : (2 : ℚ) ^ (-1000 : ℤ) ≤ numerator / denominator)
    (small : (numerator / denominator : ℚ) ≤ 2 ^ (1000 : ℤ)) :
    ∃ value, ofQuotient? negative numerator denominator = some value
      ∧ value.negative = negative ∧ value.Rounds (numerator / denominator) := by
  obtain ⟨above, below⟩ := exponentOf_spec numeratorPositive denominatorPositive large
  obtain ⟨bottomPositive, quotientIs⟩ :=
    scaled_eq numerator denominatorPositive (exponentOf numerator denominator)
  obtain ⟨lower, upper, strict⟩ := roundedQuotient_near
    (scaled numerator denominator (exponentOf numerator denominator)).1 bottomPositive
  refine ⟨_, ofQuotient?_eq negative numeratorPositive denominatorPositive large small, ?_⟩
  generalize exponentOf numerator denominator = exponent at *
  generalize scaled numerator denominator exponent = parts at *
  rw [quotientIs] at lower upper strict
  generalize roundedQuotient parts.1 parts.2 = significand at *
  generalize (numerator / denominator : ℚ) = number at *
  have least : 2 ^ 52 ≤ significand := by
    by_contra less
    have short : (significand : ℚ) + 1 ≤ 2 ^ 52 := by exact_mod_cast (by omega)
    linarith
  have greatest : significand ≤ 2 ^ 53 := by
    by_contra more
    have long : (2 : ℚ) ^ 53 + 1 ≤ significand := by exact_mod_cast (by omega)
    linarith
  by_cases carries : significand = 2 ^ 53
  · rw [if_pos carries]
    refine ⟨rfl, rounds_of_carry ?_ below⟩
    rw [carries] at lower
    push_cast at lower
    exact lower
  · rw [if_neg carries]
    exact ⟨rfl, rounds_of_near least (by omega) above lower upper strict⟩

/-- A natural number of 53 bits with zeros of the binary notation behind them is a value. -/
theorem exists_exact (negative : Bool) {significand shift : Nat} (positive : 0 < significand)
    (fits : significand < 2 ^ 53) (short : shift ≤ 900) :
    ∃ value, ofQuotient? negative (significand * 2 ^ shift) 1 = some value
      ∧ value.negative = negative ∧ value.size = significand * 2 ^ shift := by
  have numeratorPositive : 0 < significand * 2 ^ shift := by positivity
  have whole : ((significand * 2 ^ shift : Nat) : ℚ) / (1 : Nat) = significand * 2 ^ shift := by
    push_cast
    ring
  have upper : (significand * 2 ^ shift : ℚ) < 2 ^ 53 * 2 ^ shift := by
    have bounded : (significand : ℚ) < 2 ^ 53 := by exact_mod_cast fits
    gcongr
  have large : (2 : ℚ) ^ (-1000 : ℤ) ≤ (significand * 2 ^ shift : Nat) / (1 : Nat) := by
    have one : (1 : ℚ) ≤ significand * 2 ^ shift := by exact_mod_cast numeratorPositive
    rw [whole]
    exact (zpow_le_one_of_nonpos₀ (by norm_num) (by norm_num)).trans one
  have small : ((significand * 2 ^ shift : Nat) / (1 : Nat) : ℚ) ≤ 2 ^ (1000 : ℤ) := by
    rw [whole]
    refine upper.le.trans ?_
    rw [← pow_add, ← zpow_natCast]
    exact zpow_le_zpow_right₀ (by norm_num) (by omega)
  obtain ⟨above, below⟩ := exponentOf_spec numeratorPositive Nat.one_pos large
  obtain ⟨bottomPositive, quotientIs⟩ := scaled_eq (significand * 2 ^ shift) Nat.one_pos
    (exponentOf (significand * 2 ^ shift) 1)
  refine ⟨_, ofQuotient?_eq negative numeratorPositive Nat.one_pos large small, ?_⟩
  generalize exponentOf (significand * 2 ^ shift) 1 = exponent at *
  generalize scaled (significand * 2 ^ shift) 1 exponent = parts at *
  rw [whole] at above below quotientIs
  have power : (0 : ℚ) < 2 ^ exponent := by positivity
  -- The exponent is so small that the number is a multiple of the power of two.
  obtain ⟨gap, shiftIs⟩ : ∃ gap : Nat, (shift : ℤ) = exponent + gap := by
    have bounded : (2 : ℚ) ^ 52 * 2 ^ exponent < 2 ^ 53 * 2 ^ shift :=
      ((le_div_iff₀ power).1 above).trans_lt upper
    have ordered : (2 : ℚ) ^ exponent < 2 ^ (shift + 1 : ℤ) := by
      rw [zpow_add_one₀ two_ne_zero, zpow_natCast]
      linarith
    have exponents := (zpow_lt_zpow_iff_right₀ (by norm_num : (1 : ℚ) < 2)).1 ordered
    exact ⟨(shift - exponent).toNat, by omega⟩
  have multiple : (significand * 2 ^ shift : ℚ) / 2 ^ exponent = (significand * 2 ^ gap : Nat) := by
    rw [← zpow_natCast, shiftIs, zpow_add₀ two_ne_zero, zpow_natCast, div_eq_iff power.ne']
    push_cast
    ring
  rw [multiple] at below quotientIs
  have rounded : roundedQuotient parts.1 parts.2 = significand * 2 ^ gap := by
    have bottom : (parts.2 : ℚ) ≠ 0 := by exact_mod_cast bottomPositive.ne'
    rw [div_eq_iff bottom] at quotientIs
    have product : parts.1 = significand * 2 ^ gap * parts.2 := by exact_mod_cast quotientIs
    rw [product, roundedQuotient_mul _ bottomPositive]
  have noCarry : ¬significand * 2 ^ gap = 2 ^ 53 := by
    have bounded : significand * 2 ^ gap < 2 ^ 53 := by exact_mod_cast below
    omega
  rw [rounded, if_neg noCarry]
  refine ⟨rfl, ?_⟩
  rw [div_eq_iff power.ne'] at multiple
  exact multiple.symm

end Quotients

end DbSchema.Binary64
