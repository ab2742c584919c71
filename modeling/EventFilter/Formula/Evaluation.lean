import EventFilter.Formula
import EventFilter.Postorder

/-!
Evaluation of formulas in post-order.

Whatever stands before and after it, the post-order of a formula leaves exactly one value more on
the stack: the value of the formula.
-/

namespace EventFilter.Postorder

theorem evaluateFrom_postorder (truth : Int → Option Bool) (assigned : Int → Bool)
    (formula : Formula Int) (covered : ∀ index ∈ formula.atoms, truth index = some (assigned index))
    (stack : List Bool) (rest : List Token) :
    evaluateFrom truth stack (formula.postorder ++ rest) =
      evaluateFrom truth (formula.value assigned :: stack) rest := by
  induction formula generalizing stack rest with
  | atom index =>
    simp [Formula.postorder, Formula.value, evaluateFrom, evaluateStep,
      covered index (by simp [Formula.atoms]), bind, Except.bind]
  | not operand ih =>
    simp only [Formula.postorder, List.append_assoc, ih covered]
    simp [Formula.value, evaluateFrom, evaluateStep, bind, Except.bind]
  | and left right leftIh rightIh | or left right leftIh rightIh =>
    simp only [Formula.atoms, List.mem_append] at covered
    simp only [Formula.postorder, List.append_assoc]
    rw [leftIh fun index found => covered index (.inl found),
      rightIh fun index found => covered index (.inr found)]
    simp [Formula.value, evaluateFrom, evaluateStep, combine, bind, Except.bind]

theorem checkFrom_postorder (formula : Formula Int) (depth : Nat) (rest : List Token) :
    checkFrom depth (formula.postorder ++ rest) = checkFrom (depth + 1) rest := by
  induction formula generalizing depth rest with
  | atom index => simp [Formula.postorder, checkFrom, checkStep, bind, Except.bind]
  | not operand ih =>
    simp only [Formula.postorder, List.append_assoc, ih]
    simp [checkFrom, checkStep, bind, Except.bind]
  | and left right leftIh rightIh | or left right leftIh rightIh =>
    simp only [Formula.postorder, List.append_assoc, leftIh, rightIh]
    simp [checkFrom, checkStep, bind, Except.bind]

theorem check_postorder (formula : Formula Int) : check formula.postorder = .ok () := by
  have accepted := checkFrom_postorder formula 0 []
  rw [List.append_nil] at accepted
  rw [check, accepted]
  rfl

/-- The post-order of a formula evaluates to its value. -/
theorem evaluate_postorder (truth : Int → Option Bool) (assigned : Int → Bool)
    (formula : Formula Int) (covered : ∀ index ∈ formula.atoms, truth index = some (assigned index)) :
    evaluate truth formula.postorder = .ok (formula.value assigned) := by
  have evaluated := evaluateFrom_postorder truth assigned formula covered [] []
  rw [List.append_nil] at evaluated
  rw [evaluate, evaluated]
  rfl

end EventFilter.Postorder
