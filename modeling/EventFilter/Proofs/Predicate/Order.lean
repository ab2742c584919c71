import EventFilter.Proofs.Predicate.Testing

/-!
The comparisons as relations of an order.

Numbers are ordered by value and texts by their first difference, after letter case is folded. For
one value of a property and one value of a predicate, all comparisons refer to the same one of
these orders.
-/

namespace EventFilter

namespace Comparison

def Relates {Element : Type} [LT Element] : Comparison → Element → Element → Prop
  | equal, left, right => left = right
  | notEqual, left, right => left ≠ right
  | atLeast, left, right => ¬left < right
  | atMost, left, right => ¬right < left
  | greater, left, right => right < left
  | less, left, right => left < right

/-- Exactly one of less, equal and greater, and the other comparisons as these three say. -/
structure IsTrichotomous (answers : Comparison → Bool) : Prop where
  single : [answers less, answers equal, answers greater].count true = 1
  notEqual_eq : answers notEqual = !answers equal
  atMost_eq : answers atMost = (answers less || answers equal)
  atLeast_eq : answers atLeast = (answers greater || answers equal)

theorem isTrichotomous_holds (ordering : Ordering) :
    IsTrichotomous fun comparison => comparison.holds ordering := by
  cases ordering <;> exact ⟨rfl, rfl, rfl, rfl⟩

end Comparison

structure IsOrdering {Element : Type} [LT Element] (ordering : Ordering)
    (left right : Element) : Prop where
  lt_iff : ordering = .lt ↔ left < right
  eq_iff : ordering = .eq ↔ left = right
  gt_iff : ordering = .gt ↔ right < left

theorem IsOrdering.holds_iff {Element : Type} [LT Element] {ordering : Ordering}
    {left right : Element} (isOrdering : IsOrdering ordering left right)
    (comparison : Comparison) :
    comparison.holds ordering = true ↔ comparison.Relates left right := by
  cases comparison with
  | equal =>
      rw [Comparison.Relates, ← isOrdering.eq_iff]
      cases ordering <;> decide
  | notEqual =>
      rw [Comparison.Relates, ne_eq, ← isOrdering.eq_iff]
      cases ordering <;> decide
  | atLeast | less =>
      rw [Comparison.Relates, ← isOrdering.lt_iff]
      cases ordering <;> decide
  | atMost | greater =>
      rw [Comparison.Relates, ← isOrdering.gt_iff]
      cases ordering <;> decide

theorem Quantity.isOrdering_compare (left right : Quantity) :
    IsOrdering (left.compare right) left.units right.units :=
  ⟨Int.compare_eq_lt, Int.compare_eq_eq, Int.compare_eq_gt⟩

theorem Text.compare_eq_lt_iff (left right : Text) : compare left right = .lt ↔ left < right := by
  induction left generalizing right with
  | nil =>
      cases right with
      | nil => simp
      | cons second others => simp
  | cons first rest ih =>
      cases right with
      | nil => simp
      | cons second others =>
          have earlier : compare first second = .lt ↔ first < second := compareOfLessAndEq_eq_lt
          rw [List.compare_eq_compareLex, List.compareLex_cons_cons, Ordering.then_eq_lt,
            List.cons_lt_cons_iff, earlier, Std.compare_eq_iff_eq, ← ih others,
            List.compare_eq_compareLex]

theorem Text.isOrdering_compare (left right : Text) :
    IsOrdering (compare left right) left right where
  lt_iff := compare_eq_lt_iff left right
  eq_iff := Std.compare_eq_iff_eq
  gt_iff := Std.OrientedCmp.gt_iff_lt.trans (compare_eq_lt_iff right left)

namespace Predicate

open PredicateParts (Frame)

theorem eq_compare_of_compareAsText {predicate : Predicate} {actual : Value} {ordering : Ordering}
    (compared : predicate.compareAsText actual = .ok ordering) :
    ordering =
      compare (Text.foldCase actual.display) (Text.foldCase predicate.parts.operand) := by
  rw [compareAsText] at compared
  split at compared <;> cases compared
  rfl

theorem order_cases {predicate : Predicate} {actual : Value} {ordering : Ordering}
    (ordered : predicate.order actual = .ok ordering) :
    (∃ left right, actual.quantity? = .ok (some left) ∧ predicate.quantity = some right ∧
      ordering = left.compare right) ∨
    ((¬∃ left right, actual.quantity? = .ok (some left) ∧ predicate.quantity = some right) ∧
      ordering =
        compare (Text.foldCase actual.display) (Text.foldCase predicate.parts.operand)) := by
  rw [order] at ordered
  cases expected : predicate.quantity with
  | none =>
      rw [expected] at ordered
      refine .inr ⟨?_, eq_compare_of_compareAsText ordered⟩
      rintro ⟨left, right, -, isNumber⟩
      cases isNumber
  | some right =>
      rw [expected] at ordered
      cases quantified : actual.quantity? with
      | error fault =>
          rw [quantified] at ordered
          cases ordered
      | ok quantity =>
          rw [quantified] at ordered
          cases quantity with
          | none =>
              refine .inr ⟨?_, eq_compare_of_compareAsText ordered⟩
              rintro ⟨left, right, isNumber, -⟩
              cases isNumber
          | some left =>
              cases ordered
              exact .inl ⟨left, right, rfl, rfl, rfl⟩

/-- What all comparisons of two values answer: those of numbers are the relations of their order if
both values are numbers, and those of texts the relations of theirs if not. -/
inductive AreRelations (actual : Value) (expected : Text) (answers : Comparison → Bool) : Prop
  | numbers {left right : Quantity} : actual.quantity? = .ok (some left) →
      Value.quantity? (.text expected) = .ok (some right) →
      (∀ comparison, answers comparison = true ↔ comparison.Relates left.units right.units) →
      AreRelations actual expected answers
  | texts : (¬∃ left right, actual.quantity? = .ok (some left) ∧
        Value.quantity? (.text expected) = .ok (some right)) →
      (∀ comparison, answers comparison = true ↔
        comparison.Relates (Text.foldCase actual.display) (Text.foldCase expected)) →
      AreRelations actual expected answers

theorem areRelations_holds (predicate : Predicate) {actual : Value} {ordering : Ordering}
    (quantified : Value.quantity? (.text predicate.parts.operand) = .ok predicate.quantity)
    (ordered : predicate.order actual = .ok ordering) :
    AreRelations actual predicate.parts.operand fun comparison => comparison.holds ordering := by
  rcases order_cases ordered with ⟨left, right, isLeft, isRight, rfl⟩ | ⟨notNumbers, rfl⟩
  · rw [isRight] at quantified
    exact .numbers isLeft quantified (left.isOrdering_compare right).holds_iff
  · refine .texts ?_ (Text.isOrdering_compare _ _).holds_iff
    rintro ⟨left, right, isLeft, isRight⟩
    rw [quantified] at isRight
    exact notNumbers ⟨left, right, isLeft, Except.ok.inj isRight⟩

section Frames

variable {frame : Frame} {value : Text} {quantity : Option Quantity} {properties : PropertyMap}
  {eventName : Value}

theorem subject_ofFrame (comparison other : Comparison) :
    (ofFrame frame value quantity comparison).subject =
      (ofFrame frame value quantity other).subject :=
  rfl

theorem order_ofFrame (comparison other : Comparison) :
    (ofFrame frame value quantity comparison).order =
      (ofFrame frame value quantity other).order :=
  rfl

theorem testProperties_fails_alike {comparison : Comparison} {fault : Fault}
    (failed : (ofFrame frame value quantity comparison).testProperties properties eventName =
      .error fault) (other : Comparison) :
    (ofFrame frame value quantity other).testProperties properties eventName = .error fault := by
  rw [testProperties_eq_error_iff, subject_ofFrame comparison other,
    order_ofFrame comparison other] at failed
  exact testProperties_eq_error_iff.mpr failed

theorem answers_of_null (found : IsSubject properties eventName frame.name .null)
    (comparison : Comparison) :
    (ofFrame frame value quantity comparison).testProperties properties eventName = .ok false := by
  apply testProperties_of_null
  exact subject_eq_ok_iff.mpr found

theorem exists_ordering {actual : Value} {answers : Comparison → Bool}
    (found : IsSubject properties eventName frame.name actual) (present : actual ≠ .null)
    (answered : ∀ comparison,
      (ofFrame frame value quantity comparison).testProperties properties eventName =
        .ok (answers comparison)) :
    ∃ ordering, (ofFrame frame value quantity .equal).order actual = .ok ordering ∧
      answers = fun comparison => comparison.holds ordering := by
  have tested (comparison : Comparison) : Except.ok (answers comparison) =
      ((ofFrame frame value quantity .equal).order actual).map comparison.holds := by
    rw [← answered, testProperties_of_present (subject_eq_ok_iff.mpr found) present,
      order_ofFrame comparison .equal]
    rfl
  obtain ⟨ordering, ordered, _⟩ := exists_of_map_eq_ok (tested .equal).symm
  refine ⟨ordering, ordered, funext fun comparison => ?_⟩
  have answer := tested comparison
  rw [ordered] at answer
  exact Except.ok.inj answer

end Frames

/-- For one property and one value, the comparisons fail alike. Their answers are all negative if
the property is null or missing, and otherwise they are the relations of one total order. -/
theorem answers_of_order (frame : Frame) {value : Text} (unquoted : '"' ∉ value)
    {predicate : Predicate} (built : build (frame.text .equal value) = .ok predicate) :
    ∃ predicates : Comparison → Predicate,
      (∀ comparison, build (frame.text comparison value) = .ok (predicates comparison)) ∧
      ∀ (properties : PropertyMap) (eventName : Value),
        (∀ comparison other fault,
          (predicates comparison).testProperties properties eventName = .error fault →
            (predicates other).testProperties properties eventName = .error fault) ∧
        ∀ answers : Comparison → Bool,
          (∀ comparison, (predicates comparison).testProperties properties eventName =
            .ok (answers comparison)) →
          ∃ actual, IsSubject properties eventName frame.name actual ∧
            (actual = .null → ∀ comparison, answers comparison = false) ∧
            (actual ≠ .null →
              Comparison.IsTrichotomous answers ∧ AreRelations actual value answers) := by
  rw [build_frame frame .equal unquoted] at built
  obtain ⟨quantity, quantified, _⟩ := exists_of_map_eq_ok built
  refine ⟨ofFrame frame value quantity, fun comparison => ?_, fun properties eventName =>
    ⟨fun comparison other fault failed => testProperties_fails_alike failed other,
      fun answers answered => ?_⟩⟩
  · rw [build_frame frame comparison unquoted, quantified]
    rfl
  cases found : (ofFrame frame value quantity .equal).subject properties eventName with
  | error fault =>
      have failed := testProperties_of_fault found
      rw [answered] at failed
      cases failed
  | ok actual =>
      have isSubject : IsSubject properties eventName frame.name actual :=
        subject_eq_ok_iff.mp found
      refine ⟨actual, isSubject, ?_, fun present => ?_⟩
      · rintro rfl comparison
        have tested := answered comparison
        rw [answers_of_null isSubject] at tested
        exact (Except.ok.inj tested).symm
      · obtain ⟨ordering, ordered, rfl⟩ := exists_ordering isSubject present answered
        exact ⟨Comparison.isTrichotomous_holds ordering,
          areRelations_holds (ofFrame frame value quantity .equal) quantified ordered⟩

theorem answers_of_order_beside_five :
    ∃ (frame : Frame) (predicates : Comparison → Predicate),
      frame.text .equal ['5'] = "a==\"5\"".toList ∧
      (∀ comparison, build (frame.text comparison ['5']) = .ok (predicates comparison)) ∧
      AreRelations (.integer 3) ['5'] (fun comparison => comparison.holds .lt) ∧
      AreRelations (.real .nan) ['5'] (fun comparison => comparison.holds .gt) ∧
      ∀ comparison, (predicates comparison).testProperties [] .null = .ok false := by
  let frame : Frame := ⟨['a'], [], [], ⟨'a', [], rfl, rfl, rfl⟩, rfl, rfl⟩
  let predicate := ofFrame frame ['5'] (some ⟨(5 * Binary64.unitsOfOne : Nat)⟩)
  have built (comparison : Comparison) :
      build (frame.text comparison ['5']) = .ok (predicate comparison) := by
    cases comparison <;> decide +kernel
  obtain ⟨predicates, alsoBuilt, results⟩ := answers_of_order frame (by decide) (built .equal)
  obtain rfl : predicates = predicate := funext fun comparison =>
    Except.ok.inj ((alsoBuilt comparison).symm.trans (built comparison))
  have relates {actual : Value} {ordering : Ordering} (present : actual ≠ .null)
      (answered : ∀ comparison, (predicate comparison).testProperties
        [(.text ['a'], actual)] .null = .ok (comparison.holds ordering)) :
      AreRelations actual ['5'] fun comparison => comparison.holds ordering := by
    obtain ⟨found, isSubject, -, ordered⟩ := (results _ _).2 _ answered
    have subject : (predicate .equal).subject [(.text ['a'], actual)] .null = .ok actual := rfl
    obtain rfl : actual = found :=
      Except.ok.inj (subject.symm.trans (subject_eq_ok_iff.mpr isSubject))
    exact (ordered present).2
  refine ⟨frame, predicate, rfl, built, relates nofun fun comparison => ?_,
    relates nofun fun comparison => ?_,
    answers_of_null (.property (by decide) (.absent (by simp [PropertyMap.PassesOver])))⟩
  · cases comparison <;> decide +kernel
  · cases comparison <;> decide +kernel

end Predicate

end EventFilter
