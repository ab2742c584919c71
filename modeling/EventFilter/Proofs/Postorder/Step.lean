import EventFilter.Formula.ParseTree
import EventFilter.Postorder

/-!
What a step of the conversion to post-order comes to.

Whether a token is taken depends on the kind of token that is expected and on the open groups only.
`Outcome` says what becomes of both, and which fault is raised.
-/

namespace EventFilter

def Token.endsOperand : Token → Bool
  | symbol _ | closeGroup => true
  | _ => false

namespace Postorder.Progress

variable {expression : Text} {progress next : Progress} {entry : Placed}

def groups (progress : Progress) : List Nat :=
  progress.pending.filterMap Pending.groupPosition?

theorem mem_groups_iff {position : Nat} :
    position ∈ progress.groups ↔ .group position ∈ progress.pending := by
  rw [groups, List.mem_filterMap]
  constructor
  · rintro ⟨_ | _, inside, ⟨⟩⟩
    exact inside
  · intro inside
    exact ⟨.group position, inside, rfl⟩

theorem groups_release (isReleased : Pending → Bool)
    (keepsGroup : ∀ position, isReleased (.group position) = false) (progress : Progress) :
    (progress.release isReleased).groups = progress.groups := by
  obtain ⟨output, pending, expectsOperand⟩ := progress
  change (pending.dropWhile isReleased).filterMap Pending.groupPosition? =
    pending.filterMap Pending.groupPosition?
  induction pending with
  | nil => rfl
  | cons first rest ih =>
      rw [List.dropWhile_cons]
      split
      next released =>
        cases first with
        | connective operator => rw [ih, List.filterMap_cons_none rfl]
        | group position => simp [keepsGroup] at released
      next => rfl

/-- What a step comes to, as far as the expected kind of token and the open groups tell. -/
inductive Outcome (expression : Text) (progress : Progress) (entry : Placed) :
    Except Fault Progress → Prop
  | plain {next : Progress} : entry.token.isParenthesis = false →
      startsOperand entry.token = progress.expectsOperand →
      next.expectsOperand = !entry.token.endsOperand → next.groups = progress.groups →
      Outcome expression progress entry (.ok next)
  | opened {next : Progress} : entry.token = .openGroup → progress.expectsOperand = true →
      next.expectsOperand = true → next.groups = entry.position :: progress.groups →
      Outcome expression progress entry (.ok next)
  | closed {next : Progress} {position : Nat} : entry.token = .closeGroup →
      progress.expectsOperand = false → next.expectsOperand = false →
      progress.groups = position :: next.groups →
      Outcome expression progress entry (.ok next)
  | operand : startsOperand entry.token = true → progress.expectsOperand = false →
      Outcome expression progress entry
        (Symbolic.fail expression (.missingOperatorBefore entry.token) entry.position)
  | operator : startsOperand entry.token = false → progress.expectsOperand = true →
      Outcome expression progress entry
        (Symbolic.fail expression (.missingOperandBefore entry.token) entry.position)
  | unmatched : entry.token = .closeGroup → progress.expectsOperand = false →
      progress.groups = [] →
      Outcome expression progress entry
        (Symbolic.fail expression .unmatchedClose entry.position)
  | unknown {text : Text} : entry.token = .other text → progress.expectsOperand = false →
      Outcome expression progress entry (.error (.unknownOperator text))

theorem outcome_closeGroup (closes : entry.token = .closeGroup)
    (expects : progress.expectsOperand = false) :
    Outcome expression progress entry (progress.closeGroup expression entry.position) := by
  have same := groups_release Pending.isConnective (fun _ => rfl) progress
  rw [closeGroup]
  cases remaining : (progress.release Pending.isConnective).pending with
  | nil =>
      rw [groups, remaining] at same
      exact .unmatched closes expects same.symm
  | cons first outer =>
      cases first with
      | connective operator =>
          have stops := List.head?_dropWhile_not Pending.isConnective progress.pending
          change progress.pending.dropWhile Pending.isConnective = _ at remaining
          simp [remaining, Pending.isConnective] at stops
      | group position =>
          rw [groups, remaining] at same
          exact .closed closes expects expects same.symm

theorem outcome_step (expression : Text) (progress : Progress) (entry : Placed) :
    Outcome expression progress entry (step expression progress entry) := by
  rw [step]
  cases starts : startsOperand entry.token with
  | true =>
      cases expects : progress.expectsOperand with
      | false => exact .operand starts expects
      | true =>
          obtain ⟨token, position⟩ := entry
          cases token with
          | symbol index => exact .plain rfl expects.symm rfl rfl
          | openGroup => exact .opened rfl expects rfl rfl
          | connective operator =>
              cases operator with
              | not => exact .plain rfl expects.symm rfl rfl
              | and | or => cases starts
          | closeGroup | other => cases starts
  | false =>
      cases expects : progress.expectsOperand with
      | true => exact .operator starts expects
      | false =>
          obtain ⟨token, position⟩ := entry
          cases token with
          | symbol | openGroup => cases starts
          | connective operator =>
              cases operator with
              | not => cases starts
              | and | or =>
                  exact .plain rfl expects.symm rfl (groups_release _ (fun _ => rfl) progress)
          | closeGroup => exact outcome_closeGroup rfl expects
          | other text => exact .unknown rfl expects

theorem finish_eq (expression : Text) (progress : Progress) :
    finish expression progress =
      if progress.expectsOperand then
        Symbolic.fail expression .missingOperandAtEnd expression.length
      else
        match progress.groups with
        | position :: _ => Symbolic.fail expression .unmatchedOpen position
        | [] => .ok (progress.release Pending.isConnective).output.reverse := by
  have first : progress.pending.findSome? Pending.groupPosition? = progress.groups.head? :=
    List.head?_filterMap.symm
  rw [finish, first]
  cases progress.groups <;> rfl

end Postorder.Progress

end EventFilter
