import EventFilter.Fault

/-!
Faults whose messages have integers in them.

An integer is written if its magnitude is below a power of ten. A fault with a greater integer in
its message cannot be raised, and the fault that is raised in its place tells nothing of it.
-/

namespace EventFilter

namespace Text

variable {value : Int}

/-- The least number with too many digits. -/
def digitBound : Nat := Nat.pow 10 digitCeiling

-- The exponent is generalised so that the power is never computed.
theorem digitBound_pos : 0 < digitBound := by
  unfold digitBound
  generalize digitCeiling = digits
  exact Nat.pow_pos (by decide)

theorem isWritable_iff : isWritable value = true ↔ value.natAbs < digitBound := by
  unfold isWritable digitBound
  rw [decide_eq_true_eq]
  have positive : 0 < digitCeiling := by decide
  generalize digitCeiling = digits at positive ⊢
  exact Nat.length_toDigits_le_iff (by decide) positive

theorem isWritable_eq_false_iff : isWritable value = false ↔ digitBound ≤ value.natAbs := by
  rw [← Bool.not_eq_true, isWritable_iff, Nat.not_lt]

theorem digitBound_le_natAbs : digitBound ≤ (digitBound : Int).natAbs :=
  Nat.le_of_eq (Int.natAbs_natCast _).symm

theorem neg_digitBound_lt (count : Nat) : -(digitBound : Int) < (count : Int) := by
  have positive := digitBound_pos
  omega

theorem isWritableIn_eq_false_iff {expression : Text} :
    isWritableIn expression value = false ↔
      (value < 0 ∨ expression.length < value) ∧ digitBound ≤ value.natAbs := by
  rw [isWritableIn, Bool.or_eq_false_iff, isWritable_eq_false_iff, Bool.and_eq_false_iff,
    decide_eq_false_iff_not, decide_eq_false_iff_not, Int.not_le, Int.not_le]

theorem isWritableIn_of_le {expression : Text} {offset : Nat}
    (within : offset ≤ expression.length) : isWritableIn expression offset = true := by
  simp [isWritableIn, within]

end Text

namespace Token

variable {tokens : List Token}

theorem all_isWritable_iff :
    tokens.all isWritable = true ↔
      ∀ index, .symbol index ∈ tokens → index.natAbs < Text.digitBound := by
  rw [List.all_eq_true]
  constructor
  · exact fun writable index inside => Text.isWritable_iff.mp (writable _ inside)
  · intro writable token inside
    cases token with
    | symbol index => exact Text.isWritable_iff.mpr (writable index inside)
    | connective | openGroup | closeGroup | other => rfl

theorem all_isWritable_eq_false {index : Int} (inside : .symbol index ∈ tokens)
    (digits : Text.digitBound ≤ index.natAbs) : tokens.all isWritable = false := by
  rw [← Bool.not_eq_true, all_isWritable_iff]
  intro writable
  have bound := writable index inside
  omega

end Token

namespace EvaluationReason

variable {tokens : List Token}

theorem fault_of_writable (reason : EvaluationReason)
    (writable : ∀ index, .symbol index ∈ tokens → index.natAbs < Text.digitBound) :
    reason.fault tokens = .evaluation ⟨reason, tokens⟩ :=
  if_pos (Token.all_isWritable_iff.mpr writable)

theorem fault_of_not_writable (reason : EvaluationReason) {index : Int}
    (inside : .symbol index ∈ tokens) (digits : Text.digitBound ≤ index.natAbs) :
    reason.fault tokens = .tooManyDigits := by
  rw [fault, Token.all_isWritable_eq_false inside digits]
  rfl

end EvaluationReason

namespace ParsingReason

variable {reason : ParsingReason} {expression : Text} {position : Nat}

theorem fault_of_writable
    (writable : ∀ number ∈ reason.integers ++ [(position : Int)],
      Text.isWritableIn expression number = true) :
    reason.fault expression position =
      .parsing { reason, expression := some expression, position := some position } :=
  if_pos (List.all_eq_true.mpr writable)

theorem fault_of_not_writable {number : Int}
    (inside : number ∈ reason.integers ++ [(position : Int)])
    (unwritable : Text.isWritableIn expression number = false) :
    reason.fault expression position = .tooManyDigits := by
  refine if_neg fun writable => ?_
  rw [List.all_eq_true.mp writable number inside] at unwritable
  cases unwritable

theorem eq_of_fault_eq_parsing {fault : ParsingFault}
    (raised : reason.fault expression position = .parsing fault) :
    fault = { reason, expression := some expression, position := some position } := by
  rw [ParsingReason.fault] at raised
  split at raised <;> cases raised
  rfl

theorem fault_ne_unreadableNumeral (value : Text) :
    reason.fault expression position ≠ .unreadableNumeral value := by
  rw [ParsingReason.fault]
  split <;> exact nofun

theorem fault_of_within (within : position ≤ expression.length)
    (writable : ∀ number ∈ reason.integers, Text.isWritableIn expression number = true) :
    reason.fault expression position =
      .parsing { reason, expression := some expression, position := some position } := by
  refine fault_of_writable fun number inside => ?_
  rcases List.mem_append.mp inside with among | atPosition
  · exact writable number among
  · rw [List.mem_singleton.mp atPosition]
    exact Text.isWritableIn_of_le within

end ParsingReason

end EventFilter
