import EventFilter.Formula.Evaluation
import EventFilter.Proofs.Fault
import EventFilter.Proofs.Traversal

/-!
The check of post-orders against their evaluation.

The check goes through a token list with the height of the stack only. So it accepts exactly the
post-orders of formulas, and it fails as the evaluation does, unless a truth value is missing
before.
-/

namespace EventFilter

namespace Formula

theorem append_postorder_inj {first second : Formula Int} {before other : List Token}
    (same : before ++ first.postorder = other ++ second.postorder) :
    before = other ∧ first = second := by
  induction first generalizing second before other with
  | atom index =>
      cases second with
      | atom => simpa [postorder] using same
      | not | and | or => simp [postorder, ← List.append_assoc] at same
  | not operand ih =>
      cases second with
      | not =>
          obtain ⟨rfl, rfl⟩ := ih (by simpa [postorder, ← List.append_assoc] using same)
          exact ⟨rfl, rfl⟩
      | atom | and | or => simp [postorder, ← List.append_assoc] at same
  | and left right leftIh rightIh =>
      cases second with
      | and =>
          obtain ⟨rest, rfl⟩ := rightIh (by simpa [postorder, ← List.append_assoc] using same)
          obtain ⟨rfl, rfl⟩ := leftIh rest
          exact ⟨rfl, rfl⟩
      | atom | not | or => simp [postorder, ← List.append_assoc] at same
  | or left right leftIh rightIh =>
      cases second with
      | or =>
          obtain ⟨rest, rfl⟩ := rightIh (by simpa [postorder, ← List.append_assoc] using same)
          obtain ⟨rfl, rfl⟩ := leftIh rest
          exact ⟨rfl, rfl⟩
      | atom | not | and => simp [postorder, ← List.append_assoc] at same

theorem postorder_injective {first second : Formula Int}
    (same : first.postorder = second.postorder) : first = second :=
  (append_postorder_inj (congrArg ([] ++ ·) same)).2

/-- The tokens that have left a stack of formulas, whose top comes first. -/
def listed (stack : List (Formula Int)) : List Token :=
  stack.reverse.flatMap postorder

@[simp] theorem listed_cons (top : Formula Int) (stack : List (Formula Int)) :
    listed (top :: stack) = listed stack ++ top.postorder := by
  simp [listed]

end Formula

namespace Postorder

variable {truth : Int → Option Bool} {tokens : List Token}

section Runs

theorem checkFrom_append (depth : Nat) (first second : List Token) :
    checkFrom depth (first ++ second) =
      (first.foldlM checkStep depth).bind fun reached => checkFrom reached second := by
  induction first generalizing depth with
  | nil => rfl
  | cons token rest ih =>
      rw [List.cons_append, checkFrom, List.foldlM_cons]
      cases checkStep depth token with
      | error reason => rfl
      | ok next => exact ih next

theorem evaluateFrom_append (truth : Int → Option Bool) (stack : List Bool)
    (first second : List Token) :
    evaluateFrom truth stack (first ++ second) =
      (first.foldlM (evaluateStep truth) stack).bind fun reached =>
        evaluateFrom truth reached second := by
  induction first generalizing stack with
  | nil => rfl
  | cons token rest ih =>
      rw [List.cons_append, evaluateFrom, List.foldlM_cons]
      cases evaluateStep truth stack token with
      | error reason => rfl
      | ok next => exact ih next

theorem checkFrom_nil_eq_ok_iff {depth : Nat} : checkFrom depth [] = .ok () ↔ depth = 1 := by
  rw [checkFrom]
  split <;> simp [*]

theorem check_eq_ok_iff : check tokens = .ok () ↔ tokens.foldlM checkStep 0 = .ok 1 := by
  have run := checkFrom_append 0 tokens []
  have passes : check tokens = .ok () ↔ checkFrom 0 tokens = .ok () := by
    rw [check]
    cases checkFrom 0 tokens with
    | error reason => constructor <;> rintro ⟨⟩
    | ok accepted => exact ⟨fun _ => rfl, fun _ => rfl⟩
  rw [List.append_nil] at run
  rw [passes, run]
  cases tokens.foldlM checkStep 0 with
  | error reason => constructor <;> rintro ⟨⟩
  | ok depth => exact checkFrom_nil_eq_ok_iff.trans (Except.ok.injEq depth 1).symm.to_iff

end Runs

section Reconstruction

variable {stack : List (Formula Int)} {depth : Nat}

theorem exists_listed_of_checkStep {token : Token}
    (stepped : checkStep stack.length token = .ok depth) :
    ∃ next : List (Formula Int),
      next.length = depth ∧ Formula.listed next = Formula.listed stack ++ [token] := by
  cases token with
  | symbol index =>
      cases stepped
      exact ⟨.atom index :: stack, rfl, Formula.listed_cons _ stack⟩
  | connective operator =>
      cases operator with
      | not =>
          cases stack with
          | nil => cases stepped
          | cons operand rest =>
              cases stepped
              exact ⟨.not operand :: rest, rfl, by simp [Formula.postorder]⟩
      | and =>
          rcases stack with _ | ⟨right, _ | ⟨left, rest⟩⟩
          · cases stepped
          · cases stepped
          · cases stepped
            exact ⟨.and left right :: rest, rfl, by simp [Formula.postorder]⟩
      | or =>
          rcases stack with _ | ⟨right, _ | ⟨left, rest⟩⟩
          · cases stepped
          · cases stepped
          · cases stepped
            exact ⟨.or left right :: rest, rfl, by simp [Formula.postorder]⟩
  | openGroup | closeGroup | other => cases stepped

theorem exists_listed_of_run (stack : List (Formula Int))
    (run : tokens.foldlM checkStep stack.length = .ok depth) :
    ∃ last : List (Formula Int),
      last.length = depth ∧ Formula.listed last = Formula.listed stack ++ tokens := by
  induction tokens generalizing stack with
  | nil =>
      cases run
      exact ⟨stack, rfl, (List.append_nil _).symm⟩
  | cons token rest ih =>
      obtain ⟨reached, stepped, others⟩ := foldlM_cons_eq_ok_iff.mp run
      obtain ⟨next, rfl, listed⟩ := exists_listed_of_checkStep stepped
      obtain ⟨last, height, whole⟩ := ih next others
      refine ⟨last, height, ?_⟩
      rw [whole, listed, ← List.append_cons]

theorem exists_postorder_of_check (accepted : check tokens = .ok ()) :
    ∃ formula : Formula Int, formula.postorder = tokens := by
  obtain ⟨last, height, whole⟩ := exists_listed_of_run [] (check_eq_ok_iff.mp accepted)
  obtain ⟨formula, rfl⟩ := List.length_eq_one_iff.mp height
  exact ⟨formula, by simpa [Formula.listed] using whole⟩

/-- The check accepts a token list if and only if it is the post-order of a formula. There is only
one such formula, and the list evaluates to its value. -/
theorem check_decides_postorder (tokens : List Token) :
    (check tokens = .ok () ↔ ∃ formula : Formula Int, formula.postorder = tokens) ∧
    ∀ formula : Formula Int, formula.postorder = tokens →
      (∀ other : Formula Int, other.postorder = tokens → other = formula) ∧
      ∀ (truth : Int → Option Bool) (assigned : Int → Bool),
        (∀ index ∈ formula.atoms, truth index = some (assigned index)) →
        evaluate truth tokens = .ok (formula.value assigned) := by
  constructor
  · constructor
    · exact exists_postorder_of_check
    · rintro ⟨formula, rfl⟩
      exact check_postorder formula
  · rintro formula rfl
    exact ⟨fun other same => Formula.postorder_injective same,
      fun truth assigned covered => evaluate_postorder truth assigned formula covered⟩

theorem check_decides_postorder_repeated :
    let formula : Formula Int := .or (.and (.atom 0) (.not (.atom 1))) (.atom 0)
    let truth : Int → Option Bool := fun index => if index < 2 then some (index == 0) else none
    formula.postorder =
      [.symbol 0, .symbol 1, .connective .not, .connective .and, .symbol 0, .connective .or] ∧
    (∀ index ∈ formula.atoms, truth index = some (index == 0)) ∧
    evaluate truth
      [.symbol 0, .symbol 1, .connective .not, .connective .and, .symbol 0, .connective .or] =
        .ok true := by
  intro formula truth
  have covered : ∀ index ∈ formula.atoms, truth index = some (index == 0) := by decide
  exact ⟨rfl, covered,
    ((check_decides_postorder _).2 formula rfl).2 truth (fun index => index == 0) covered⟩

end Reconstruction

section Lockstep

def Covers (truth : Int → Option Bool) (tokens : List Token) : Prop :=
  ∀ index, .symbol index ∈ tokens → (truth index).isSome

theorem map_length_evaluateStep {token : Token} (covers : Covers truth [token])
    (stack : List Bool) :
    (evaluateStep truth stack token).map List.length = checkStep stack.length token := by
  cases token with
  | symbol index =>
      obtain ⟨value, known⟩ :=
        Option.isSome_iff_exists.mp (covers index (List.mem_singleton_self _))
      simp [evaluateStep, checkStep, known, Except.map]
  | connective operator =>
      cases operator with
      | not => cases stack <;> rfl
      | and | or => rcases stack with _ | ⟨_, _ | ⟨_, _⟩⟩ <;> rfl
  | openGroup | closeGroup | other => rfl

theorem map_length_run (covers : Covers truth tokens) (stack : List Bool) :
    (tokens.foldlM (evaluateStep truth) stack).map List.length =
      tokens.foldlM checkStep stack.length := by
  induction tokens generalizing stack with
  | nil => rfl
  | cons token rest ih =>
      have first : Covers truth [token] := fun index inside =>
        covers index (by simpa using .inl (List.mem_singleton.mp inside))
      have others : Covers truth rest := fun index inside =>
        covers index (List.mem_cons_of_mem token inside)
      rw [List.foldlM_cons, List.foldlM_cons, ← map_length_evaluateStep first]
      cases evaluateStep truth stack token with
      | error reason => rfl
      | ok next => exact ih others next

theorem map_evaluateFrom_nil (truth : Int → Option Bool) (stack : List Bool) :
    (evaluateFrom truth stack []).map (fun _ => ()) = checkFrom stack.length [] := by
  rcases stack with _ | ⟨_, _ | ⟨_, _⟩⟩ <;> simp [evaluateFrom, checkFrom, Except.map]

theorem map_evaluateFrom (covers : Covers truth tokens) :
    (evaluateFrom truth [] tokens).map (fun _ => ()) = checkFrom 0 tokens := by
  have run := map_length_run covers []
  rw [← List.append_nil tokens, evaluateFrom_append, checkFrom_append]
  rw [List.length_nil] at run
  rw [← run]
  cases tokens.foldlM (evaluateStep truth) [] with
  | error reason => rfl
  | ok stack => exact map_evaluateFrom_nil truth stack

/-- Where all truth values are known, evaluation and check both pass or fail with the same fault.
Otherwise the first missing truth value is the fault of the evaluation, unless the check fails
before it gets there. These faults have all tokens in their messages, so an integer with too many
digits among them makes them another fault. -/
theorem evaluate_fails_like_check (truth : Int → Option Bool) (tokens : List Token) :
    (Covers truth tokens →
      ((∃ value, evaluate truth tokens = .ok value) ∧ check tokens = .ok ()) ∨
      ∃ reason : EvaluationReason, evaluate truth tokens = .error (reason.fault tokens) ∧
        check tokens = .error (reason.fault tokens)) ∧
    (∀ before index after, tokens = before ++ .symbol index :: after → Covers truth before →
      truth index = none →
      ((∃ depth, before.foldlM checkStep 0 = .ok depth) →
        ∃ reason : EvaluationReason,
          reason.message = "No truth value for symbol " ++ String.ofList (Text.decimal index) ∧
          evaluate truth tokens = .error (reason.fault tokens)) ∧
      ((¬∃ depth, before.foldlM checkStep 0 = .ok depth) →
        ∃ reason : EvaluationReason, evaluate truth tokens = .error (reason.fault tokens) ∧
          check tokens = .error (reason.fault tokens))) ∧
    ∀ reason : EvaluationReason,
      ((∀ index, .symbol index ∈ tokens → index.natAbs < Text.digitBound) →
        reason.fault tokens = .evaluation ⟨reason, tokens⟩) ∧
      ∀ index, .symbol index ∈ tokens → Text.digitBound ≤ index.natAbs →
        reason.fault tokens = .tooManyDigits := by
  refine ⟨?_, ?_, fun reason => ⟨reason.fault_of_writable, fun index inside digits =>
    reason.fault_of_not_writable inside digits⟩⟩
  · intro covers
    rw [evaluate, check, ← map_evaluateFrom covers]
    cases evaluateFrom truth [] tokens with
    | ok value => exact .inl ⟨⟨value, rfl⟩, rfl⟩
    | error reason => exact .inr ⟨reason, rfl, rfl⟩
  · intro before index after split covers missing
    have run := map_length_run covers []
    have evaluated := evaluateFrom_append truth [] before (.symbol index :: after)
    have checked := checkFrom_append 0 before (.symbol index :: after)
    rw [← split] at evaluated checked
    rw [List.length_nil] at run
    rw [evaluate, check, evaluated, checked, ← run]
    cases before.foldlM (evaluateStep truth) [] with
    | ok stack =>
        constructor
        · intro _
          refine ⟨.noTruthValue index, rfl, ?_⟩
          simp only [Except.bind, evaluateFrom, evaluateStep, missing]
          rfl
        · intro failed
          exact absurd ⟨stack.length, rfl⟩ failed
    | error reason =>
        constructor
        · rintro ⟨depth, ⟨⟩⟩
        · intro _
          exact ⟨reason, rfl, rfl⟩

theorem evaluate_fails_like_check_incomplete :
    let truth : Int → Option Bool := fun index => if index = 0 then some true else none
    Covers truth [.symbol 0, .connective .and] ∧ truth 5 = none ∧
    (∃ reason, evaluate truth [.symbol 0, .connective .and] =
        .error (.evaluation ⟨reason, [.symbol 0, .connective .and]⟩) ∧
      check [.symbol 0, .connective .and] =
        .error (.evaluation ⟨reason, [.symbol 0, .connective .and]⟩)) ∧
    (∃ reason : EvaluationReason, reason.message = "No truth value for symbol 5" ∧
      evaluate truth [.symbol 0, .symbol 5, .closeGroup] =
        .error (.evaluation ⟨reason, [.symbol 0, .symbol 5, .closeGroup]⟩)) ∧
    ∃ reason, evaluate truth [.symbol 0, .connective .and, .symbol 5] =
        .error (.evaluation ⟨reason, [.symbol 0, .connective .and, .symbol 5]⟩) ∧
      check [.symbol 0, .connective .and, .symbol 5] =
        .error (.evaluation ⟨reason, [.symbol 0, .connective .and, .symbol 5]⟩) := by
  intro truth
  have covers : Covers truth [.symbol 0, .connective .and] := by
    intro index inside
    have same : index = 0 := by simpa using inside
    rw [same]
    rfl
  have coversSymbol : Covers truth [.symbol 0] := fun index inside =>
    covers index (List.mem_append_left [Token.connective .and] inside)
  refine ⟨covers, rfl, ?_, ?_, ?_⟩
  · obtain ⟨fails, -, written⟩ :=
      evaluate_fails_like_check truth [.symbol 0, .connective .and]
    obtain ⟨reason, evaluated, checked⟩ := (fails covers).resolve_left (by rintro ⟨_, ⟨⟩⟩)
    rw [(written reason).1 (Token.all_isWritable_iff.mp rfl)] at evaluated checked
    exact ⟨reason, evaluated, checked⟩
  · obtain ⟨-, missing, written⟩ :=
      evaluate_fails_like_check truth [.symbol 0, .symbol 5, .closeGroup]
    obtain ⟨reason, message, evaluated⟩ :=
      (missing [.symbol 0] 5 [.closeGroup] rfl coversSymbol rfl).1 ⟨1, rfl⟩
    rw [(written reason).1 (Token.all_isWritable_iff.mp rfl)] at evaluated
    exact ⟨reason, message, evaluated⟩
  · obtain ⟨-, missing, written⟩ :=
      evaluate_fails_like_check truth [.symbol 0, .connective .and, .symbol 5]
    obtain ⟨reason, evaluated, checked⟩ :=
      (missing [.symbol 0, .connective .and] 5 [] rfl covers rfl).2 (by rintro ⟨_, ⟨⟩⟩)
    rw [(written reason).1 (Token.all_isWritable_iff.mp rfl)] at evaluated checked
    exact ⟨reason, evaluated, checked⟩

theorem not_evaluate_fails_like_check :
    let tokens : List Token := [.symbol Text.digitBound, .symbol 0]
    Covers (fun _ => some true) tokens ∧
    (∀ value, evaluate (fun _ => some true) tokens ≠ .ok value) ∧
    ¬∃ reason, evaluate (fun _ => some true) tokens = .error (.evaluation ⟨reason, tokens⟩) ∧
      check tokens = .error (.evaluation ⟨reason, tokens⟩) := by
  intro tokens
  have unwritten : check tokens = .error .tooManyDigits :=
    congrArg Except.error ((EvaluationReason.valuesLeft 2).fault_of_not_writable
      List.mem_cons_self Text.digitBound_le_natAbs)
  refine ⟨fun _ _ => rfl, nofun, ?_⟩
  rintro ⟨reason, -, checked⟩
  rw [unwritten] at checked
  cases checked

end Lockstep

end Postorder

end EventFilter
