import EventFilter.Proofs.Number.Overflow
import Mathlib.Algebra.Order.Group.Unbundled.Abs
import Mathlib.Data.Nat.Log
import Mathlib.Data.Rat.Lemmas

/-!
Rounding respects the order of numbers.

Between two powers of two the numbers of 53 bits lie evenly, and rounding is that of quotients to
whole numbers. Where the distance doubles stands a power of two, and rounding does not go past it
from either side.
-/

namespace EventFilter.Binary64

section Quotients

variable {numerator denominator rounded other otherDenominator otherRounded : Nat}

theorem isNearest_mul (positive : 0 < denominator) (whole : Nat) :
    IsNearest (whole * denominator) denominator whole where
  notAbove := by omega
  notBelow := by omega
  even := by omega

theorem IsNearest.mono (nearest : IsNearest numerator denominator rounded)
    (otherNearest : IsNearest other otherDenominator otherRounded) (positive : 0 < denominator)
    (otherPositive : 0 < otherDenominator)
    (within : numerator * otherDenominator ≤ other * denominator) : rounded ≤ otherRounded := by
  by_contra above
  have next : otherRounded + 1 ≤ rounded := by omega
  have notAbove := Nat.mul_le_mul_right otherDenominator nearest.notAbove
  have notBelow := Nat.mul_le_mul_right denominator otherNearest.notBelow
  have product := Nat.mul_le_mul_right (denominator * otherDenominator) next
  have bothPositive := Nat.mul_pos positive otherPositive
  -- Both quotients lie halfway between two numbers, and both of these are even.
  have same : rounded = otherRounded + 1 := by
    refine Nat.eq_of_mul_eq_mul_right bothPositive ?_
    linarith
  have tie : 2 * (rounded * denominator) = 2 * numerator + denominator := by
    refine Nat.eq_of_mul_eq_mul_right otherPositive ?_
    linarith
  have otherTie : 2 * other = 2 * (otherRounded * otherDenominator) + otherDenominator := by
    refine Nat.eq_of_mul_eq_mul_right positive ?_
    linarith
  have even := nearest.even (.inl tie)
  have otherEven := otherNearest.even (.inr otherTie)
  omega

theorem IsNearest.unique (nearest : IsNearest numerator denominator rounded)
    (again : IsNearest numerator denominator otherRounded) (positive : 0 < denominator) :
    rounded = otherRounded :=
  Nat.le_antisymm (nearest.mono again positive positive (Nat.le_refl _))
    (again.mono nearest positive positive (Nat.le_refl _))

theorem IsNearest.le_of_le (nearest : IsNearest numerator denominator rounded)
    (positive : 0 < denominator) {bound : Nat} (within : numerator ≤ bound * denominator) :
    rounded ≤ bound :=
  nearest.mono (isNearest_mul positive bound) positive positive
    (Nat.mul_le_mul_right denominator within)

theorem IsNearest.le_of_ge (nearest : IsNearest numerator denominator rounded)
    (positive : 0 < denominator) {bound : Nat} (within : bound * denominator ≤ numerator) :
    bound ≤ rounded :=
  (isNearest_mul positive bound).mono nearest positive positive
    (Nat.mul_le_mul_right denominator within)

end Quotients

section Magnitudes

variable {numerator denominator other otherDenominator : Nat}

theorem isNearest_roundUnits (numerator : Nat) (positive : 0 < denominator) :
    ∃ rounded, roundUnits numerator denominator =
        rounded * spacing (numerator * unitsOfOne / denominator) ∧
      IsNearest (numerator * unitsOfOne)
        (denominator * spacing (numerator * unitsOfOne / denominator)) rounded :=
  ⟨_, rfl, isNearest_divideHalfEven (Nat.mul_pos positive (spacing_pos _))⟩

theorem spacing_mono {units more : Nat} (within : units ≤ more) : spacing units ≤ spacing more := by
  rw [spacing, spacing, pow_two_eq, pow_two_eq]
  have exponents : units.log2 ≤ more.log2 := by
    rw [Nat.log2_eq_log_two, Nat.log2_eq_log_two]
    exact Nat.log_mono_right within
  exact pow_le_pow_right₀ one_le_two (Nat.sub_le_sub_right exponents 52)

theorem spacing_lt_spacing {units more : Nat} (less : spacing units < spacing more) :
    2 * spacing units ≤ spacing more ∧ 2 ^ 52 * spacing more ≤ more := by
  have exponents : units.log2 - 52 < more.log2 - 52 := by
    rw [spacing, spacing, pow_two_eq, pow_two_eq] at less
    exact (Nat.pow_lt_pow_iff_right one_lt_two).mp less
  refine ⟨?_, spacing_le (by omega)⟩
  rw [spacing, spacing, pow_two_eq, pow_two_eq, ← pow_succ']
  exact pow_le_pow_right₀ one_le_two (by omega)

theorem roundUnits_mono (positive : 0 < denominator) (otherPositive : 0 < otherDenominator)
    (within : numerator * otherDenominator ≤ other * denominator) :
    roundUnits numerator denominator ≤ roundUnits other otherDenominator := by
  have scaled : numerator * unitsOfOne * otherDenominator ≤ other * unitsOfOne * denominator := by
    rw [Nat.mul_right_comm, Nat.mul_right_comm other]
    exact Nat.mul_le_mul_right unitsOfOne within
  obtain ⟨rounded, result, nearest⟩ := isNearest_roundUnits numerator positive
  obtain ⟨otherRounded, otherResult, otherNearest⟩ :=
    isNearest_roundUnits other otherPositive
  have below := Nat.lt_mul_div_succ (numerator * unitsOfOne) positive
  have atLeast := Nat.div_mul_le_self (other * unitsOfOne) otherDenominator
  have floors : numerator * unitsOfOne / denominator ≤ other * unitsOfOne / otherDenominator := by
    rw [Nat.le_div_iff_mul_le otherPositive]
    refine Nat.le_of_mul_le_mul_right ?_ positive
    calc
      numerator * unitsOfOne / denominator * otherDenominator * denominator =
          numerator * unitsOfOne / denominator * denominator * otherDenominator :=
        Nat.mul_right_comm _ _ _
      _ ≤ numerator * unitsOfOne * otherDenominator :=
        Nat.mul_le_mul_right _ (Nat.div_mul_le_self _ _)
      _ ≤ other * unitsOfOne * denominator := scaled
  rw [result, otherResult]
  generalize numerator * unitsOfOne = whole at *
  generalize other * unitsOfOne = otherWhole at *
  generalize whole / denominator = units at *
  generalize otherWhole / otherDenominator = otherUnits at *
  have stepPositive := Nat.mul_pos positive (spacing_pos units)
  have otherStepPositive := Nat.mul_pos otherPositive (spacing_pos otherUnits)
  rcases (spacing_mono floors).eq_or_lt with same | less
  · rw [← same] at otherNearest otherStepPositive ⊢
    refine Nat.mul_le_mul_right _ (nearest.mono otherNearest stepPositive otherStepPositive ?_)
    rw [← Nat.mul_assoc, ← Nat.mul_assoc]
    exact Nat.mul_le_mul_right _ scaled
  · -- The power of two between the two magnitudes.
    obtain ⟨doubled, reaches⟩ := spacing_lt_spacing less
    have upTo : rounded ≤ 2 ^ 53 := by
      refine nearest.le_of_le stepPositive ?_
      have bound := Nat.mul_le_mul_left denominator (lt_spacing units)
      rw [Nat.mul_left_comm] at bound
      exact below.le.trans bound
    have from52 : 2 ^ 52 ≤ otherRounded := by
      refine otherNearest.le_of_ge otherStepPositive ?_
      have bound := Nat.mul_le_mul_right otherDenominator reaches
      rw [Nat.mul_assoc, Nat.mul_comm (spacing otherUnits)] at bound
      exact bound.trans atLeast
    calc
      rounded * spacing units ≤ 2 ^ 53 * spacing units := Nat.mul_le_mul_right _ upTo
      _ ≤ 2 ^ 52 * spacing otherUnits := by omega
      _ ≤ otherRounded * spacing otherUnits := Nat.mul_le_mul_right _ from52

theorem roundUnits_congr (positive : 0 < denominator) (otherPositive : 0 < otherDenominator)
    (same : numerator * otherDenominator = other * denominator) :
    roundUnits numerator denominator = roundUnits other otherDenominator :=
  Nat.le_antisymm (roundUnits_mono positive otherPositive same.le)
    (roundUnits_mono otherPositive positive same.ge)

theorem roundUnits_tiny (tiny : 2 * (numerator * unitsOfOne) < denominator) :
    roundUnits numerator denominator = 0 := by
  have positive : 0 < denominator := Nat.zero_lt_of_lt tiny
  obtain ⟨rounded, result, nearest⟩ := isNearest_roundUnits numerator positive
  have least : spacing (numerator * unitsOfOne / denominator) = 1 := by
    rw [Nat.div_eq_of_lt (by omega)]
    rfl
  rw [least, Nat.mul_one] at result nearest
  rw [result]
  by_contra present
  have reached := Nat.mul_le_mul_right denominator (Nat.one_le_iff_ne_zero.mpr present)
  have notAbove := nearest.notAbove
  omega

theorem spacing_dvd_of_lt {whole exponent unit : Nat} (isPower : unit = Nat.pow 2 exponent)
    (less : whole < 2 ^ 53) : spacing (whole * unit) ∣ unit := by
  rw [pow_two_eq] at isPower
  subst isPower
  refine Nat.pow_dvd_pow 2 ?_
  by_cases zero : whole * 2 ^ exponent = 0
  · simp [zero]
  · have short : (whole * 2 ^ exponent).log2 < 53 + exponent := by
      rw [log2_lt_iff zero]
      exact (Nat.mul_lt_mul_right (Nat.two_pow_pos exponent)).mpr less
    omega

theorem roundUnits_whole {whole : Nat} (within : whole ≤ 2 ^ 53) :
    roundUnits whole 1 = whole * unitsOfOne := by
  have divides : spacing (whole * unitsOfOne) ∣ whole * unitsOfOne := by
    rcases within.eq_or_lt with rfl | less
    · decide +kernel
    · have isPower : unitsOfOne = Nat.pow 2 1074 := by decide +kernel
      exact (spacing_dvd_of_lt isPower less).mul_left whole
  obtain ⟨rounded, result, nearest⟩ := isNearest_roundUnits whole Nat.one_pos
  rw [Nat.div_one] at result nearest
  rw [Nat.one_mul] at nearest
  obtain ⟨significand, exact⟩ := divides
  have stepPositive := spacing_pos (whole * unitsOfOne)
  have kept := isNearest_mul stepPositive significand
  rw [Nat.mul_comm, ← exact] at kept
  rw [result, nearest.unique kept stepPositive, Nat.mul_comm, ← exact]

end Magnitudes

section Numbers

variable {number other : ℚ}

def roundMagnitude (number : ℚ) : Nat :=
  roundUnits number.num.natAbs number.den

/-- The binary64 number nearest to a number, a tie to the even significand, as if there were no
largest one. -/
def nearest (number : ℚ) : Quantity :=
  signed (number < 0) (roundMagnitude number)

theorem abs_eq_div (number : ℚ) : |number| = (number.num.natAbs : ℚ) / (number.den : ℚ) := by
  rw [Rat.abs_def, Rat.divInt_eq_div]
  rfl

theorem roundMagnitude_of_abs_eq {numerator denominator : Nat} (positive : 0 < denominator)
    (same : |number| = (numerator : ℚ) / (denominator : ℚ)) :
    roundMagnitude number = roundUnits numerator denominator := by
  apply roundUnits_congr number.den_pos positive
  rw [abs_eq_div, div_eq_div_iff (by exact_mod_cast number.den_nz)
    (by exact_mod_cast positive.ne')] at same
  exact_mod_cast same

theorem roundMagnitude_mono (within : |number| ≤ |other|) :
    roundMagnitude number ≤ roundMagnitude other := by
  apply roundUnits_mono number.den_pos other.den_pos
  rw [abs_eq_div, abs_eq_div, div_le_div_iff₀ (by exact_mod_cast number.den_pos)
    (by exact_mod_cast other.den_pos)] at within
  exact_mod_cast within

/-- Rounding never inverts the order of two numbers, but it can make them equal. -/
theorem nearest_mono (within : number ≤ other) :
    (nearest number).units ≤ (nearest other).units := by
  rw [nearest, nearest, signed, signed]
  by_cases otherNegative : other < 0
  · have negative : number < 0 := within.trans_lt otherNegative
    have magnitudes : roundMagnitude other ≤ roundMagnitude number := by
      apply roundMagnitude_mono
      rwa [abs_of_neg otherNegative, abs_of_neg negative, neg_le_neg_iff]
    simp only [negative, otherNegative, decide_true, if_true]
    omega
  · by_cases negative : number < 0
    · simp only [negative, otherNegative, decide_true, decide_false, if_true, Bool.false_eq_true,
        if_false]
      omega
    · have magnitudes : roundMagnitude number ≤ roundMagnitude other := by
        apply roundMagnitude_mono
        rwa [abs_of_nonneg (not_lt.mp otherNegative), abs_of_nonneg (not_lt.mp negative)]
      simp only [negative, otherNegative, decide_false, Bool.false_eq_true, if_false]
      exact_mod_cast magnitudes

theorem nearest_intCast {whole : Int} (within : whole.natAbs ≤ 2 ^ 53) :
    (nearest whole).units = whole * unitsOfOne := by
  have magnitude : roundMagnitude whole = whole.natAbs * unitsOfOne := roundUnits_whole within
  rw [nearest, signed, magnitude]
  by_cases negative : whole < 0
  · simp only [Int.cast_lt_zero, negative, decide_true, if_true]
    rw [Int.natCast_mul, ← Int.neg_mul, Int.ofNat_natAbs_of_nonpos negative.le, Int.neg_neg]
  · simp only [Int.cast_lt_zero, negative, decide_false]
    rw [if_neg Bool.false_ne_true, Int.natCast_mul, Int.natAbs_of_nonneg (not_lt.mp negative)]

end Numbers

end EventFilter.Binary64
