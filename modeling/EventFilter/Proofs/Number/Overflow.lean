import EventFilter.Number.Numeral
import Mathlib.Algebra.Order.Field.Power
import Mathlib.Algebra.Order.Field.Rat
import Mathlib.Tactic.Linarith
import Mathlib.Tactic.NormNum
import Mathlib.Tactic.Positivity
import Mathlib.Tactic.Ring

/-!
Magnitudes that are too large.

The largest magnitude is 2^1024 - 2^971. Halfway from it to 2^1024 a tie goes to the even
significand, which is that of 2^1024, so from 2^1024 - 2^970 on nothing is near enough.
-/

namespace EventFilter

namespace Binary64

/-- A whole number nearest to a quotient, and even if another one is as near. -/
structure IsNearest (numerator denominator rounded : Nat) : Prop where
  notAbove : 2 * (rounded * denominator) ≤ 2 * numerator + denominator
  notBelow : 2 * numerator ≤ 2 * (rounded * denominator) + denominator
  even : 2 * (rounded * denominator) = 2 * numerator + denominator ∨
    2 * numerator = 2 * (rounded * denominator) + denominator → rounded % 2 = 0

variable {numerator denominator rounded : Nat}

theorem isNearest_divideHalfEven (positive : 0 < denominator) :
    IsNearest numerator denominator (divideHalfEven numerator denominator) := by
  have split : numerator / denominator * denominator + numerator % denominator = numerator := by
    rw [Nat.mul_comm]
    exact Nat.div_add_mod numerator denominator
  have remainder := Nat.mod_lt numerator positive
  have next : (numerator / denominator + 1) * denominator =
      numerator / denominator * denominator + denominator := Nat.succ_mul _ _
  unfold divideHalfEven
  dsimp only
  split
  · constructor <;> omega
  · split
    · constructor <;> rw [next] <;> omega
    · split
      · constructor <;> omega
      · constructor <;> rw [next] <;> omega

theorem IsNearest.even_le_iff (nearest : IsNearest numerator denominator rounded)
    (positive : 0 < denominator) (bound : Nat) (even : bound % 2 = 0) :
    bound ≤ rounded ↔ 2 * (bound * denominator) ≤ 2 * numerator + denominator := by
  constructor
  · intro within
    have product := Nat.mul_le_mul_right denominator within
    have notAbove := nearest.notAbove
    omega
  · intro reaches
    apply Nat.le_of_not_lt
    intro short
    have product : (rounded + 1) * denominator ≤ bound * denominator :=
      Nat.mul_le_mul_right denominator short
    rw [Nat.succ_mul] at product
    have notBelow := nearest.notBelow
    -- The bound is the next number, and the quotient lies halfway to it.
    have isEven := nearest.even (.inr (by omega))
    have two : (rounded + 2) * denominator ≤ bound * denominator :=
      Nat.mul_le_mul_right denominator (by omega)
    rw [Nat.add_mul] at two
    omega

theorem pow_two_eq (exponent : Nat) : Nat.pow 2 exponent = 2 ^ exponent :=
  rfl

theorem spacing_pos (units : Nat) : 0 < spacing units := by
  rw [spacing, pow_two_eq]
  exact Nat.two_pow_pos _

theorem lt_spacing (units : Nat) : units < 2 ^ 53 * spacing units := by
  have below : units < 2 ^ (units.log2 + 1) := Nat.lt_log2_self
  rw [spacing, pow_two_eq, ← pow_add]
  exact below.trans_le (pow_le_pow_right₀ one_le_two (by omega))

theorem spacing_le {units : Nat} (large : 52 ≤ units.log2) : 2 ^ 52 * spacing units ≤ units := by
  have present : units ≠ 0 := by
    rintro rfl
    simp at large
  rw [spacing, pow_two_eq, ← pow_add, Nat.add_sub_cancel' large]
  exact Nat.log2_self_le present

def halfStep : Nat := 2 ^ 2044

theorem halfStep_pos : 0 < halfStep :=
  pow_pos two_pos 2044

theorem overflowUnits_eq : overflowUnits = 2 ^ 54 * halfStep := by
  decide +kernel

theorem log2_lt_iff {units : Nat} (present : units ≠ 0) (shift exponent : Nat) :
    units.log2 < shift + exponent ↔ units < 2 ^ shift * 2 ^ exponent := by
  rw [← pow_add]
  exact Nat.log2_lt present

theorem spacing_le_halfStep {units : Nat} (small : units < 2 ^ 53 * halfStep) :
    spacing units ≤ halfStep := by
  have exponent : units.log2 < 53 + 2044 := by
    by_cases present : units = 0
    · simp [present]
    · rwa [halfStep, ← log2_lt_iff present] at small
  rw [spacing, pow_two_eq, halfStep]
  exact pow_le_pow_right₀ one_le_two (by omega)

theorem spacing_top {units : Nat} (large : 2 ^ 53 * halfStep ≤ units)
    (small : units < 2 ^ 54 * halfStep) : spacing units = 2 * halfStep := by
  have present : units ≠ 0 := by
    have positive := halfStep_pos
    omega
  rw [halfStep, ← Nat.not_lt, ← log2_lt_iff present] at large
  rw [halfStep, ← log2_lt_iff present] at small
  have exponent : units.log2 - 52 = 2044 + 1 := by omega
  rw [spacing, pow_two_eq, exponent, halfStep, pow_succ']

theorem halfStep_le_of_large {units : Nat} (large : 2 ^ 54 * halfStep ≤ units) :
    52 ≤ units.log2 ∧ 4 * halfStep ≤ spacing units := by
  have present : units ≠ 0 := by
    have positive := halfStep_pos
    omega
  rw [halfStep, ← Nat.not_lt, ← log2_lt_iff present, Nat.not_lt] at large
  refine ⟨by omega, ?_⟩
  rw [spacing, pow_two_eq, halfStep, show 4 = 2 ^ 2 from rfl, ← pow_add]
  exact pow_le_pow_right₀ one_le_two (by omega)

section Nearest

variable {units : Nat} (positive : 0 < denominator)
  (atLeast : units * denominator ≤ numerator) (below : numerator < (units + 1) * denominator)
  (nearest : IsNearest numerator (denominator * spacing units) rounded)

include positive below nearest

theorem lt_overflowUnits_of_small (small : units < 2 ^ 53 * halfStep) :
    rounded * spacing units < overflowUnits := by
  have rounds : rounded < 2 ^ 53 + 2 := by
    have stepPositive := Nat.mul_pos positive (spacing_pos units)
    have product : (units + 1) * denominator ≤ 2 ^ 53 * spacing units * denominator :=
      Nat.mul_le_mul_right denominator (lt_spacing units)
    rw [Nat.mul_assoc, Nat.mul_comm (spacing units)] at product
    rw [← Nat.not_le, nearest.even_le_iff stepPositive _ (by decide)]
    omega
  have product : rounded * spacing units ≤ (2 ^ 53 + 1) * halfStep :=
    Nat.mul_le_mul (by omega) (spacing_le_halfStep small)
  have halfPositive := halfStep_pos
  rw [overflowUnits_eq]
  omega

include atLeast

/-- A magnitude rounds to one that is too large if it reaches the middle between the largest
magnitude and the one that would follow it. -/
theorem overflowUnits_le_iff_of_nearest :
    overflowUnits ≤ rounded * spacing units ↔
      (2 ^ 54 - 1) * (halfStep * denominator) ≤ numerator := by
  have halfPositive : 0 < halfStep * denominator := Nat.mul_pos halfStep_pos positive
  have stepPositive := Nat.mul_pos positive (spacing_pos units)
  rcases Nat.lt_or_ge units (2 ^ 53 * halfStep) with small | atLeastHalf
  · have fits := lt_overflowUnits_of_small positive below nearest small
    have product : (units + 1) * denominator ≤ 2 ^ 53 * halfStep * denominator :=
      Nat.mul_le_mul_right denominator small
    rw [Nat.mul_assoc] at product
    constructor <;> intro reaches <;> omega
  rcases Nat.lt_or_ge units (2 ^ 54 * halfStep) with top | large
  · -- The bound has an even significand, so a tie goes up to it.
    have tie := nearest.even_le_iff stepPositive (2 ^ 53) (by decide)
    have doubled : denominator * (2 * halfStep) = 2 * (halfStep * denominator) := by ring
    have spread : 2 ^ 54 * halfStep = 2 ^ 53 * (2 * halfStep) := by omega
    rw [spacing_top atLeastHalf top, doubled] at tie
    rw [overflowUnits_eq, spacing_top atLeastHalf top, spread,
      Nat.mul_le_mul_right_iff (Nat.mul_pos two_pos halfStep_pos), tie]
    omega
  · obtain ⟨exponent, step⟩ := halfStep_le_of_large large
    have rounds : 2 ^ 52 ≤ rounded := by
      have product : 2 ^ 52 * spacing units * denominator ≤ units * denominator :=
        Nat.mul_le_mul_right denominator (spacing_le exponent)
      rw [Nat.mul_assoc, Nat.mul_comm (spacing units)] at product
      rw [nearest.even_le_iff stepPositive _ (by decide)]
      omega
    have magnitude := Nat.mul_le_mul rounds step
    have product : 2 ^ 54 * halfStep * denominator ≤ units * denominator :=
      Nat.mul_le_mul_right denominator large
    rw [Nat.mul_assoc] at product
    rw [overflowUnits_eq]
    constructor <;> intro _ <;> omega

end Nearest

/-- The least magnitude that rounds to none, the middle between the largest one and 2^1024. -/
def overflowBound : Nat := 2 ^ 1024 - 2 ^ 970

theorem overflowBound_mul_unitsOfOne :
    overflowBound * unitsOfOne = (2 ^ 54 - 1) * halfStep := by
  decide +kernel

theorem unitsOfOne_pos : 0 < unitsOfOne := by
  decide +kernel

theorem units?_eq_none_iff (positive : 0 < denominator) :
    units? numerator denominator = none ↔ overflowBound * denominator ≤ numerator := by
  have below : numerator * unitsOfOne <
      (numerator * unitsOfOne / denominator + 1) * denominator := by
    rw [Nat.mul_comm _ denominator]
    exact Nat.lt_mul_div_succ _ positive
  have overflows : overflowUnits ≤ roundUnits numerator denominator ↔
      (2 ^ 54 - 1) * (halfStep * denominator) ≤ numerator * unitsOfOne :=
    overflowUnits_le_iff_of_nearest positive (Nat.div_mul_le_self _ _) below
      (isNearest_divideHalfEven (Nat.mul_pos positive (spacing_pos _)))
  have scaled : (2 ^ 54 - 1) * (halfStep * denominator) =
      overflowBound * denominator * unitsOfOne := by
    rw [← Nat.mul_assoc, ← overflowBound_mul_unitsOfOne, Nat.mul_right_comm]
  rw [scaled, Nat.mul_le_mul_right_iff unitsOfOne_pos] at overflows
  rw [← overflows, units?]
  split
  next fits => simpa using fits
  next large => simpa using large

end Binary64

namespace Numeral

def magnitude (numeral : Numeral) : ℚ :=
  numeral.mantissa * 10 ^ numeral.exponent

theorem magnitude_eq (numeral : Numeral) :
    numeral.magnitude =
      (numeral.mantissa * Nat.pow 10 numeral.exponent.toNat : Nat) /
        (Nat.pow 10 (-numeral.exponent).toNat : Nat) := by
  have difference : numeral.exponent = (numeral.exponent.toNat : ℤ) - (-numeral.exponent).toNat :=
    (Int.toNat_sub_toNat_neg numeral.exponent).symm
  have tens (exponent : Nat) : ((Nat.pow 10 exponent : Nat) : ℚ) = 10 ^ exponent :=
    Nat.cast_pow 10 exponent
  rw [magnitude, difference, zpow_sub₀ (by norm_num), zpow_natCast, zpow_natCast]
  rw [Nat.cast_mul, tens, tens, mul_div_assoc, ← difference]

theorem pow_ten_le {small large : Nat} (within : small ≤ large) :
    Nat.pow 10 small ≤ Nat.pow 10 large :=
  Nat.pow_le_pow_right (by decide) within

theorem pow_ten_pos (exponent : Nat) : 0 < Nat.pow 10 exponent :=
  Nat.pow_pos (by decide)

theorem lt_pow_ten (mantissa : Nat) : mantissa < Nat.pow 10 (mantissa.log2 + 1) :=
  Nat.lt_log2_self.trans_le (Nat.pow_le_pow_left (by decide) _)

theorem overflowBound_le_magnitude_iff (numeral : Numeral) :
    (Binary64.overflowBound : ℚ) ≤ numeral.magnitude ↔
      Binary64.overflowBound * Nat.pow 10 (-numeral.exponent).toNat ≤
        numeral.mantissa * Nat.pow 10 numeral.exponent.toNat := by
  have positive : (0 : ℚ) < (Nat.pow 10 (-numeral.exponent).toNat : Nat) :=
    Nat.cast_pos.mpr (pow_ten_pos _)
  rw [magnitude_eq, le_div_iff₀ positive, ← Nat.cast_mul, Nat.cast_le]

theorem units?_eq_none_iff (numeral : Numeral) :
    numeral.units? = none ↔ (Binary64.overflowBound : ℚ) ≤ numeral.magnitude := by
  have boundPositive : 0 < Binary64.overflowBound := by decide +kernel
  rw [overflowBound_le_magnitude_iff]
  unfold units?
  split
  next zero =>
    have product := Nat.mul_pos boundPositive (pow_ten_pos (-numeral.exponent).toNat)
    rw [zero, Nat.zero_mul]
    simpa using product.ne'
  next present =>
    split
    next large =>
      have grows : Binary64.overflowBound ≤ Nat.pow 10 numeral.exponent.toNat :=
        le_trans (by decide +kernel) (pow_ten_le (show 400 ≤ numeral.exponent.toNat by omega))
      have whole : (-numeral.exponent).toNat = 0 := by omega
      have product := Nat.mul_le_mul (Nat.pos_of_ne_zero present) grows
      rw [whole]
      simpa using product
    next =>
      split
      next tiny =>
        have fraction : numeral.exponent.toNat = 0 := by omega
        have below : numeral.mantissa < Nat.pow 10 (-numeral.exponent).toNat :=
          (lt_pow_ten numeral.mantissa).trans_le (pow_ten_le (by omega))
        have product := Nat.mul_le_mul_right (Nat.pow 10 (-numeral.exponent).toNat) boundPositive
        simp only [fraction, Nat.pow_eq, pow_zero, mul_one, reduceCtorEq, false_iff,
          not_le] at below product ⊢
        omega
      next => exact Binary64.units?_eq_none_iff (pow_ten_pos _)

end Numeral

end EventFilter
