import EventFilter.Proofs.Fault
import EventFilter.Proofs.Postorder.Step

/-!
Where the conversion to post-order reports its faults.

The fault of a token lies at its position, the fault of a group that stays open at the position of
its parenthesis, and a missing last operand at the end of the expression.
-/

namespace EventFilter

/-- A fault at a place inside an expression, or at its end because the last operand is missing. -/
inductive Fault.LiesIn (expression : Text) : Fault → Prop
  | inside {reason : ParsingReason} {position : Nat} : position < expression.length →
      reason ≠ .missingOperandAtEnd →
      LiesIn expression (.parsing ⟨reason, some expression, some position⟩)
  | atEnd : LiesIn expression
      (.parsing ⟨.missingOperandAtEnd, some expression, some expression.length⟩)

theorem Fault.LiesIn.of_writable {expression : Text} {reason : ParsingReason} {position : Nat}
    (within : position < expression.length) (distinct : reason ≠ .missingOperandAtEnd)
    (writable : ∀ number ∈ reason.integers, Text.isWritableIn expression number = true) :
    (reason.fault expression position).LiesIn expression := by
  rw [ParsingReason.fault_of_within (Nat.le_of_lt within) writable]
  exact .inside within distinct

namespace Postorder

variable {expression : Text} {progress next : Progress} {placed : Placed} {fault : Fault}

def Progress.OpensIn (expression : Text) (progress : Progress) : Prop :=
  ∀ position, .group position ∈ progress.pending → position < expression.length

namespace Progress

theorem opensIn_iff :
    progress.OpensIn expression ↔ ∀ position ∈ progress.groups, position < expression.length := by
  simp only [OpensIn, mem_groups_iff]

theorem opensIn_step (opens : progress.OpensIn expression)
    (within : placed.position < expression.length)
    (stepped : step expression progress placed = .ok next) : next.OpensIn expression := by
  have outcome := outcome_step expression progress placed
  rw [stepped] at outcome
  rw [opensIn_iff] at opens ⊢
  cases outcome with
  | plain _ _ _ same => rwa [same]
  | opened _ _ _ added =>
      rw [added]
      exact List.forall_mem_cons.mpr ⟨within, opens⟩
  | closed _ _ _ removed =>
      rw [removed] at opens
      exact (List.forall_mem_cons.mp opens).2

theorem liesIn_step (within : placed.position < expression.length)
    (known : ∀ text, placed.token ≠ .other text)
    (writable : ∀ index ∈ placed.token.symbol?.toList, Text.isWritableIn expression index = true)
    (failed : step expression progress placed = .error fault) : fault.LiesIn expression := by
  have outcome := outcome_step expression progress placed
  rw [failed] at outcome
  cases outcome with
  | operand | operator => exact .of_writable within nofun writable
  | unmatched => exact .of_writable within nofun (List.forall_mem_nil _)
  | unknown isOther => exact absurd isOther (known _)

theorem liesIn_finish (opens : progress.OpensIn expression)
    (failed : finish expression progress = .error fault) : fault.LiesIn expression := by
  rw [finish_eq] at failed
  split at failed
  · cases failed
    rw [ParsingReason.fault_of_within (Nat.le_refl _) (List.forall_mem_nil _)]
    exact .atEnd
  · split at failed
    next position outer isOpen =>
      cases failed
      have inside : position ∈ progress.groups := by
        rw [isOpen]
        exact List.mem_cons_self
      exact .of_writable (opensIn_iff.mp opens position inside) nofun
        (List.forall_mem_nil _)
    next => cases failed

end Progress

def ReadFrom (expression : Text) (placed : List Placed) : Prop :=
  ∀ entry ∈ placed, entry.position < expression.length ∧ (∀ text, entry.token ≠ .other text) ∧
    ∀ index ∈ entry.token.symbol?.toList, Text.isWritableIn expression index = true

theorem run_outcome {placed : List Placed} (opens : progress.OpensIn expression)
    (readFrom : ReadFrom expression placed) :
    (∀ last, placed.foldlM (Progress.step expression) progress = .ok last →
      last.OpensIn expression) ∧
    ∀ fault, placed.foldlM (Progress.step expression) progress = .error fault →
      fault.LiesIn expression := by
  induction placed generalizing progress with
  | nil =>
      constructor
      · rintro last ⟨⟩
        exact opens
      · rintro fault ⟨⟩
  | cons first rest ih =>
      obtain ⟨within, known, writable⟩ := readFrom first List.mem_cons_self
      have readFromRest : ReadFrom expression rest :=
        fun entry inside => readFrom entry (List.mem_cons_of_mem first inside)
      rw [List.foldlM_cons]
      cases stepped : Progress.step expression progress first with
      | error other =>
          constructor
          · rintro last ⟨⟩
          · rintro fault ⟨⟩
            exact Progress.liesIn_step within known writable stepped
      | ok next => exact ih (Progress.opensIn_step opens within stepped) readFromRest

theorem liesIn_of_ofPlaced {placed : List Placed} (readFrom : ReadFrom expression placed)
    (failed : ofPlaced expression placed = .error fault) : fault.LiesIn expression := by
  have start : Progress.start.OpensIn expression := by
    rintro position ⟨⟩
  obtain ⟨passes, fails⟩ := run_outcome start readFrom
  rw [ofPlaced] at failed
  cases run : placed.foldlM (Progress.step expression) Progress.start with
  | error other =>
      rw [run] at failed
      cases failed
      exact fails fault run
  | ok last =>
      rw [run] at failed
      exact Progress.liesIn_finish (passes last run) failed

end Postorder

end EventFilter
