import EventFilter.Proofs.Number.Denotation
import EventFilter.Proofs.Predicate.Order

/-!
Comparisons of numbers.

A value that denotes a number is compared as the binary64 number nearest to it, however it is
written. Rounding can make two numbers equal but never swaps them, and keeps integers of 53 bits.
-/

namespace EventFilter

open Binary64 (nearest overflowBound roundMagnitude roundUnits signed)

namespace Numeral

theorem magnitude_nonneg (numeral : Numeral) : 0 ≤ numeral.magnitude := by
  rw [magnitude]
  positivity

theorem abs_value (numeral : Numeral) : |numeral.value| = numeral.magnitude := by
  have positive := abs_of_nonneg numeral.magnitude_nonneg
  rw [value, factor]
  cases numeral.negative <;> simp [positive]

theorem any_isInformationSeparator_of_read? {text : Text} (found : (read? text).isSome) :
    text.any Text.isInformationSeparator = false := by
  rw [List.any_eq_false]
  intro character inside separates
  have visible := not_isBlank_of_read? found character inside
  rw [Text.isBlank_of_isInformationSeparator separates] at visible
  cases visible

theorem pow_ten_add (first second : Nat) :
    Nat.pow 10 (first + second) = Nat.pow 10 first * Nat.pow 10 second :=
  Nat.pow_add 10 first second

theorem twice_mul_lt {mantissa unit power tens : Nat} (positive : 0 < unit)
    (short : mantissa < power) (within : 2 * unit ≤ tens) :
    2 * (mantissa * unit) < tens * power :=
  calc
    2 * (mantissa * unit) = 2 * unit * mantissa := by ring
    _ < 2 * unit * power := Nat.mul_lt_mul_of_pos_left short (Nat.mul_pos two_pos positive)
    _ ≤ tens * power := Nat.mul_le_mul_right power within

theorem units?_eq_some {numeral : Numeral} {units : Nat} (found : numeral.units? = some units) :
    units = roundMagnitude numeral.value := by
  have quotient := numeral.abs_value.trans numeral.magnitude_eq
  rw [Binary64.roundMagnitude_of_abs_eq (pow_ten_pos _) quotient]
  unfold units? at found
  split at found
  next zero =>
    rw [zero, Nat.zero_mul, Binary64.roundUnits_tiny (by simp)]
    exact (Option.some.inj found).symm
  next present =>
    split at found
    · cases found
    split at found
    next tiny =>
      have fraction : numeral.exponent.toNat = 0 := by omega
      obtain ⟨few, isFew, bound⟩ :
          ∃ few, few = 400 ∧ 2 * Binary64.unitsOfOne ≤ Nat.pow 10 few :=
        ⟨400, rfl, by decide +kernel⟩
      have large : few + (numeral.mantissa.log2 + 1) ≤ (-numeral.exponent).toNat := by omega
      have power := pow_ten_le large
      rw [pow_ten_add] at power
      have tiny := twice_mul_lt Binary64.unitsOfOne_pos (lt_pow_ten numeral.mantissa) bound
      rw [fraction, Nat.pow_eq, pow_zero, Nat.mul_one,
        Binary64.roundUnits_tiny (tiny.trans_le power)]
      exact (Option.some.inj found).symm
    next =>
      rw [Binary64.units?] at found
      split at found
      next => exact (Option.some.inj found).symm
      next => cases found

theorem quantity?_round {numeral : Numeral} (bounded : |numeral.value| < overflowBound) :
    numeral.round.quantity? = some (nearest numeral.value) := by
  rw [abs_value, ← not_le, ← units?_eq_none_iff, ← ne_eq, Option.ne_none_iff_exists'] at bounded
  obtain ⟨units, found⟩ := bounded
  have magnitude := units?_eq_some found
  rw [round, found, Binary64.ofUnits?, Binary64.quantity?, nearest, ← magnitude]
  by_cases zero : numeral.value = 0
  · -- Both zeros are the same quantity.
    have none : units = 0 := by
      rw [magnitude, zero, roundMagnitude]
      exact Binary64.roundUnits_tiny (by simp)
    rw [none]
    cases numeral.negative <;> simp [signed]
  · have positive : 0 < numeral.magnitude := by
      rw [← abs_value]
      exact abs_pos.mpr zero
    have sign : numeral.negative = decide (numeral.value < 0) := by
      rw [value, factor]
      cases numeral.negative with
      | false => simpa using positive.le
      | true => simpa using positive
    rw [← sign]

end Numeral

namespace Value

/-- The values that are numbers, and the number that each denotes. -/
inductive Denotes : Value → ℚ → Prop
  | integer (number : Int) : Denotes (.integer number) number
  | text {left written right : Text} {number : ℚ} : left.all Text.isWhiteSpace = true →
      right.all Text.isWhiteSpace = true → Numeral.Denotes written number →
      Denotes (.text (left ++ written ++ right)) number

theorem all_isWhiteSpace_iff {text : Text} :
    text.all Text.isWhiteSpace = true ↔
      text.all Text.isBlank = true ∧ text.any Text.isInformationSeparator = false := by
  simp only [List.all_eq_true, List.any_eq_false, Text.isWhiteSpace, Bool.and_eq_true,
    Bool.not_eq_true', Bool.not_eq_true]
  exact forall₂_and

theorem denotes_text_iff {text : Text} {number : ℚ} :
    Denotes (.text text) number ↔
      (∃ numeral, Numeral.read? (Text.strip text) = some numeral ∧ numeral.value = number) ∧
        text.any Text.isInformationSeparator = false := by
  constructor
  · generalize same : Value.text text = value
    rintro (_ | @⟨left, written, right, _, leftSpace, rightSpace, denotes⟩)
    · cases same
    cases same
    obtain ⟨numeral, found, rfl⟩ := Numeral.denotes_iff.mp denotes
    obtain ⟨leftBlank, leftJoined⟩ := all_isWhiteSpace_iff.mp leftSpace
    obtain ⟨rightBlank, rightJoined⟩ := all_isWhiteSpace_iff.mp rightSpace
    have isNumeral := Option.isSome_of_eq_some found
    rw [Text.strip_margins (Numeral.ne_nil_of_read? isNumeral)
      (Numeral.not_isBlank_of_read? isNumeral) leftBlank rightBlank]
    refine ⟨⟨numeral, found, rfl⟩, ?_⟩
    rw [List.any_append, List.any_append, leftJoined, rightJoined,
      Numeral.any_isInformationSeparator_of_read? isNumeral]
    rfl
  · rintro ⟨⟨numeral, found, rfl⟩, joined⟩
    obtain ⟨left, right, same, leftBlank, rightBlank⟩ := Text.exists_margins text
    rw [same, List.any_append, List.any_append, Bool.or_eq_false_iff,
      Bool.or_eq_false_iff] at joined
    rw [same]
    exact .text (all_isWhiteSpace_iff.mpr ⟨leftBlank, joined.1.1⟩)
      (all_isWhiteSpace_iff.mpr ⟨rightBlank, joined.2⟩)
      (Numeral.denotes_iff.mpr ⟨numeral, found, rfl⟩)

theorem quantity?_integer {number : Int} {quantity : Quantity}
    (found : Binary64.quantityOfInt? number = some quantity) :
    quantity? (.integer number) = .ok (some quantity) := by
  generalize same : Value.integer number = value
  fun_cases quantity? value with
  | case1 other otherQuantity alsoFound =>
      cases same
      rw [← found, alsoFound]
  | case2 other missing =>
      cases same
      rw [missing] at found
      cases found
  | case3 | case4 | case5 | case6 => cases same
  | case7 value notInteger => exact absurd same.symm (notInteger number)

theorem quantityOfInt?_eq_some {number : Int} (bounded : number.natAbs < overflowBound) :
    Binary64.quantityOfInt? number = some (nearest number) := by
  have converts := mt (quantityOfInt?_eq_none_iff number).mp (Nat.not_le.mpr bounded)
  obtain ⟨quantity, found⟩ := Option.ne_none_iff_exists'.mp converts
  rw [found]
  rw [Binary64.quantityOfInt?, Option.map_eq_some_iff] at found
  obtain ⟨units, rounded, rfl⟩ := found
  rw [Binary64.units?, Option.ite_none_right_eq_some, Option.some.injEq] at rounded
  rw [← rounded.2, nearest, roundMagnitude, Rat.num_intCast, Rat.den_intCast]
  simp

theorem abs_intCast_lt_iff (number : Int) :
    |(number : ℚ)| < overflowBound ↔ number.natAbs < overflowBound := by
  rw [← Int.cast_abs, ← Int.natCast_natAbs, Int.cast_natCast, Nat.cast_lt]

theorem Denotes.quantity?_eq {value : Value} {number : ℚ} (denotes : value.Denotes number)
    (bounded : |number| < overflowBound) : value.quantity? = .ok (some (nearest number)) := by
  cases value with
  | integer whole =>
      cases denotes
      exact quantity?_integer (quantityOfInt?_eq_some ((abs_intCast_lt_iff whole).mp bounded))
  | text text =>
      obtain ⟨⟨numeral, found, rfl⟩, joined⟩ := denotes_text_iff.mp denotes
      rw [quantity?_text, found]
      simp only [joined, Bool.false_eq_true, if_false]
      rw [Numeral.quantity?_round bounded]
  | null | flag | real | other | list | map => cases denotes

theorem exists_denotes_of_quantity? {value : Value} {quantity : Quantity}
    (notReal : ∀ number, value ≠ .real number)
    (converts : value.quantity? = .ok (some quantity)) :
    ∃ number, value.Denotes number ∧ |number| < overflowBound := by
  cases value with
  | integer whole =>
      refine ⟨whole, .integer whole, (abs_intCast_lt_iff whole).mpr ?_⟩
      by_contra large
      rw [quantity?_fails_iff.mpr (.inl ⟨whole, rfl, Nat.not_lt.mp large, rfl⟩)] at converts
      cases converts
  | text text =>
      obtain ⟨numeral, found, bounded⟩ :=
        (isFinite_iff text).mp ((isSome_iff_isFinite converts).mp rfl)
      rw [← Numeral.abs_value] at bounded
      refine ⟨numeral.value, denotes_text_iff.mpr ⟨⟨numeral, found, rfl⟩, ?_⟩, bounded⟩
      rw [← Bool.not_eq_true]
      intro separated
      have unreadable := (isUnreadable_iff text).mpr ⟨Option.isSome_of_eq_some found, separated⟩
      rw [quantity?_fails_iff.mpr (.inr ⟨text, rfl, unreadable, rfl⟩)] at converts
      cases converts
  | real number => exact absurd rfl (notReal number)
  | null | flag | other | list | map => cases converts

/-- The integers and texts that are read as numbers are those that denote one of less than 2^1024,
as it is rounded. -/
theorem converts_iff {value : Value} (notReal : ∀ number, value ≠ .real number) :
    (∃ quantity, value.quantity? = .ok (some quantity)) ↔
      ∃ number, value.Denotes number ∧ |number| < overflowBound :=
  ⟨fun ⟨_, converts⟩ => exists_denotes_of_quantity? notReal converts,
    fun ⟨_, denotes, bounded⟩ => ⟨_, denotes.quantity?_eq bounded⟩⟩

theorem Denotes.ne_null {value : Value} {number : ℚ} (denotes : value.Denotes number) :
    value ≠ .null := by
  rintro rfl
  cases denotes

end Value

namespace Comparison

def answer (comparison : Comparison) (number expected : ℚ) : Bool :=
  comparison.holds ((nearest number).compare (nearest expected))

theorem answer_iff (comparison : Comparison) (number expected : ℚ) :
    comparison.answer number expected = true ↔
      comparison.Relates (nearest number).units (nearest expected).units :=
  (Quantity.isOrdering_compare _ _).holds_iff comparison

variable {number expected : ℚ}

theorem answer_of_le (within : number ≤ expected) :
    atMost.answer number expected = true ∧ greater.answer number expected = false := by
  have rounded := Binary64.nearest_mono within
  rw [← Bool.not_eq_true, answer_iff, answer_iff, Relates, Relates, not_lt]
  exact ⟨rounded, rounded⟩

theorem answer_of_ge (within : expected ≤ number) :
    atLeast.answer number expected = true ∧ less.answer number expected = false := by
  have rounded := Binary64.nearest_mono within
  rw [← Bool.not_eq_true, answer_iff, answer_iff, Relates, Relates, not_lt]
  exact ⟨rounded, rounded⟩

theorem answer_intCast {whole other : Int} (within : whole.natAbs ≤ 2 ^ 53)
    (otherWithin : other.natAbs ≤ 2 ^ 53) (comparison : Comparison) :
    comparison.answer whole other = true ↔ comparison.Relates whole other := by
  have positive : (0 : Int) < Binary64.unitsOfOne := Int.natCast_pos.mpr Binary64.unitsOfOne_pos
  rw [answer_iff, Binary64.nearest_intCast within, Binary64.nearest_intCast otherWithin]
  cases comparison <;>
    simp only [Relates, ne_eq, mul_lt_mul_iff_left₀ positive, mul_left_inj' positive.ne']

/-- Answers to the comparisons of two numbers that no rounding inverts, and that are exact for
integers of 53 bits. -/
structure RespectsOrder (answers : Comparison → Bool) (number expected : ℚ) : Prop where
  of_le : number ≤ expected → answers atMost = true ∧ answers greater = false
  of_ge : expected ≤ number → answers atLeast = true ∧ answers less = false
  of_integers : ∀ whole other : Int, number = whole → expected = other → whole.natAbs ≤ 2 ^ 53 →
    other.natAbs ≤ 2 ^ 53 → ∀ comparison, answers comparison = true ↔
      comparison.Relates whole other

theorem respectsOrder_answer (number expected : ℚ) :
    RespectsOrder (fun comparison => comparison.answer number expected) number expected where
  of_le := answer_of_le
  of_ge := answer_of_ge
  of_integers := by
    rintro whole other rfl rfl within otherWithin comparison
    exact answer_intCast within otherWithin comparison

end Comparison

namespace Predicate

/-- Numbers are compared as they are rounded, whatever they are written like, and rounding respects
their order. They are the values that are read as numbers. -/
theorem testProperties_of_numbers {text : Text} {predicate : Predicate}
    (built : build text = .ok predicate) {properties : PropertyMap} {eventName actual : Value}
    {number expected : ℚ}
    (isSubject : IsSubject properties eventName predicate.parts.property actual)
    (isActual : actual.Denotes number) (bounded : |number| < overflowBound)
    (isExpected : Value.Denotes (.text predicate.parts.operand) expected)
    (expectedBounded : |expected| < overflowBound) :
    predicate.testProperties properties eventName =
        .ok (predicate.parts.comparison.answer number expected) ∧
      Comparison.RespectsOrder (fun comparison => comparison.answer number expected)
        number expected ∧
      ∀ value : Value, (∀ real, value ≠ .real real) →
        ((∃ quantity, value.quantity? = .ok (some quantity)) ↔
          ∃ denoted, value.Denotes denoted ∧ |denoted| < overflowBound) := by
  refine ⟨?_, Comparison.respectsOrder_answer number expected, fun _ => Value.converts_iff⟩
  have quantified := (parts_and_quantity_of_build built).2
  rw [isExpected.quantity?_eq expectedBounded, Except.ok.injEq] at quantified
  rw [testProperties_of_present (subject_eq_ok_iff.mpr isSubject) isActual.ne_null, order,
    ← quantified, isActual.quantity?_eq bounded]
  rfl

theorem testProperties_of_numbers_at_precision :
    ∃ predicate, build "a<=\" +9.007199254740993E15\"".toList = .ok predicate ∧
      predicate.testProperties [(.text ['a'], .text "\t९007199254740992 ".toList)] .null =
        .ok true ∧
      ∃ other, build "a==03.0".toList = .ok other ∧
        other.testProperties [(.text ['a'], .integer 3)] .null = .ok true := by
  let predicate : Predicate := ⟨"a<=\" +9.007199254740993E15\"".toList,
    ⟨['a'], .atMost, " +9.007199254740993E15".toList⟩,
    some ⟨(9007199254740992 * Binary64.unitsOfOne : Nat)⟩⟩
  let other : Predicate := ⟨"a==03.0".toList, ⟨['a'], .equal, "03.0".toList⟩,
    some ⟨(3 * Binary64.unitsOfOne : Nat)⟩⟩
  have built : build "a<=\" +9.007199254740993E15\"".toList = .ok predicate := by decide +kernel
  have otherBuilt : build "a==03.0".toList = .ok other := by decide +kernel
  have holds (value : Value) : IsSubject [(.text ['a'], value)] .null ['a'] value :=
    .property (by decide) (.exactly (List.nil_append _).symm (List.forall_mem_nil _))
  have below : Value.Denotes (.text "\t९007199254740992 ".toList) 9007199254740992 := by
    refine Value.denotes_text_iff.mpr ⟨⟨⟨false, 9007199254740992, 0⟩, by decide +kernel, ?_⟩, rfl⟩
    norm_num [Numeral.value, Numeral.factor, Numeral.magnitude]
  have above : Value.Denotes (.text " +9.007199254740993E15".toList) 9007199254740993 := by
    refine Value.denotes_text_iff.mpr ⟨⟨⟨false, 9007199254740993, 0⟩, by decide +kernel, ?_⟩, rfl⟩
    norm_num [Numeral.value, Numeral.factor, Numeral.magnitude]
  have three : Value.Denotes (.text "03.0".toList) 3 := by
    refine Value.denotes_text_iff.mpr ⟨⟨⟨false, 30, -1⟩, by decide +kernel, ?_⟩, rfl⟩
    norm_num [Numeral.value, Numeral.factor, Numeral.magnitude]
  have small {number : ℚ} (within : |number| ≤ 9007199254740993) : |number| < overflowBound := by
    have bound : 9007199254740993 < overflowBound := by decide +kernel
    exact within.trans_lt (by exact_mod_cast bound)
  refine ⟨predicate, built, ?_, other, otherBuilt, ?_⟩
  · obtain ⟨tested, respects, -⟩ := testProperties_of_numbers built (holds _) below
      (small (by norm_num)) above (small (by norm_num))
    rw [tested]
    exact congrArg Except.ok (respects.of_le (by norm_num)).1
  · obtain ⟨tested, respects, -⟩ := testProperties_of_numbers otherBuilt (holds _)
      (.integer 3) (small (by norm_num)) three (small (by norm_num))
    rw [tested]
    have same := respects.of_integers 3 3 (by norm_num) (by norm_num) (by decide) (by decide) .equal
    exact congrArg Except.ok (same.mpr rfl)

end Predicate

end EventFilter
