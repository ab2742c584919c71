import EventFilter.Proofs.Fault
import EventFilter.Proofs.Postorder.Groups
import EventFilter.Proofs.Postorder.Step
import EventFilter.Proofs.Traversal

/-!
Which token the conversion to post-order blames.

Every beginning that the conversion takes can be completed: by an operand if one is due, and by a
parenthesis for each open group. So the token it stops at is the first one that no continuation can
repair, and a fault at the end of the tokens says what a completion would have to add.
-/

namespace EventFilter.Postorder

def IsViable (expression : Text) (beginning : List Placed) : Prop :=
  ∃ rest output, ofPlaced expression (beginning ++ rest) = .ok output

def awaitsOperand (before : List Placed) : Bool :=
  match before.getLast? with
  | none => true
  | some entry => !entry.token.endsOperand

/-- Why no expression goes on with a token behind `before`, and the words that say so. -/
inductive IsImpossible (before : List Placed) : Token → String → Prop
  | operand {token : Token} : Progress.startsOperand token = true →
      awaitsOperand before = false →
      IsImpossible before token ("Missing operator before " ++ ParsingReason.describe token)
  | operator {token : Token} : Progress.startsOperand token = false →
      awaitsOperand before = true →
      IsImpossible before token ("Missing operand before " ++ ParsingReason.describe token)
  | closeGroup : awaitsOperand before = false → ¬HasOpenGroup before →
      IsImpossible before .closeGroup "Unbalanced parentheses: unmatched ')'"

/-- The conversion fails at a position for a reason in these words, or else because the message
would have an integer with too many digits in it. -/
inductive Blames (expression : Text) (placed : List Placed) (words : String)
    (integers : List Int) (position : Nat) : Prop
  | written {reason : ParsingReason} : reason.message = words →
      (∀ number ∈ integers ++ [(position : Int)], Text.isWritableIn expression number = true) →
      ofPlaced expression placed = .error (.parsing
        { reason, expression := some expression, position := some position }) →
      Blames expression placed words integers position
  | unwritten {number : Int} : number ∈ integers ++ [(position : Int)] →
      Text.isWritableIn expression number = false →
      ofPlaced expression placed = .error .tooManyDigits →
      Blames expression placed words integers position

theorem blames_of_fail {expression : Text} {placed : List Placed} {reason : ParsingReason}
    {position : Nat}
    (failed : ofPlaced expression placed = Symbolic.fail expression reason position) :
    Blames expression placed reason.message reason.integers position := by
  rw [Symbolic.fail] at failed
  by_cases writable : ∀ number ∈ reason.integers ++ [(position : Int)],
      Text.isWritableIn expression number = true
  · rw [ParsingReason.fault_of_writable writable] at failed
    exact .written rfl writable failed
  · simp only [not_forall, Bool.not_eq_true] at writable
    obtain ⟨number, inside, unwritable⟩ := writable
    rw [ParsingReason.fault_of_not_writable inside unwritable] at failed
    exact .unwritten inside unwritable failed

namespace Progress

variable {expression : Text} {progress next : Progress} {entry : Placed}

/-- What the conversion keeps in mind of the tokens that it has taken. -/
structure StandsBehind (before : List Placed) (progress : Progress) : Prop where
  expects : progress.expectsOperand = awaitsOperand before
  groups : LeavesOpen before progress.groups

theorem standsBehind_start : StandsBehind [] start :=
  ⟨rfl, .nothing .nil⟩

theorem awaitsOperand_concat (before : List Placed) (entry : Placed) :
    awaitsOperand (before ++ [entry]) = !entry.token.endsOperand := by
  simp [awaitsOperand]

theorem StandsBehind.step {before : List Placed} (stands : StandsBehind before progress)
    (stepped : step expression progress entry = .ok next) :
    StandsBehind (before ++ [entry]) next := by
  have outcome := outcome_step expression progress entry
  rw [stepped] at outcome
  cases outcome with
  | plain isPlain _ expects groups =>
      refine ⟨expects.trans (awaitsOperand_concat before entry).symm, ?_⟩
      rw [groups]
      exact stands.groups.append (.plain isPlain .nil)
  | opened opens _ expects groups =>
      refine ⟨by rw [expects, awaitsOperand_concat, opens]; rfl, ?_⟩
      rw [groups]
      exact stands.groups.opened opens
  | closed closes _ expects groups =>
      refine ⟨by rw [expects, awaitsOperand_concat, closes]; rfl, ?_⟩
      have leaves := stands.groups
      rw [groups] at leaves
      exact leaves.closed closes

theorem StandsBehind.run {before placed : List Placed} (stands : StandsBehind before progress)
    (run : placed.foldlM (Progress.step expression) progress = .ok next) :
    StandsBehind (before ++ placed) next := by
  induction placed generalizing before progress with
  | nil =>
      cases run
      rwa [List.append_nil]
  | cons entry rest ih =>
      obtain ⟨reached, stepped, others⟩ := foldlM_cons_eq_ok_iff.mp run
      rw [List.append_cons]
      exact ih (stands.step stepped) others

theorem exists_completion_of_operand (expression : Text) (progress : Progress)
    (expects : progress.expectsOperand = false) :
    ∃ (rest : List Placed) (output : List Token),
      (rest.foldlM (step expression) progress).bind (finish expression) = .ok output := by
  generalize isOpen : progress.groups = opened
  induction opened generalizing progress with
  | nil =>
      refine ⟨[], (progress.release Pending.isConnective).output.reverse, ?_⟩
      change finish expression progress = _
      rw [finish_eq, expects, isOpen]
      rfl
  | cons position outer ih =>
      have outcome := outcome_step expression progress ⟨.closeGroup, 0⟩
      cases stepped : step expression progress ⟨.closeGroup, 0⟩ with
      | error fault =>
          rw [stepped] at outcome
          cases outcome with
          | operand starts => cases starts
          | operator _ due => simp [expects] at due
          | unmatched _ _ nothing => simp [isOpen] at nothing
          | unknown isOther => cases isOther
      | ok next =>
          rw [stepped] at outcome
          cases outcome with
          | plain isPlain => cases isPlain
          | opened opens => cases opens
          | closed _ _ complete groups =>
              rw [isOpen] at groups
              obtain ⟨rest, output, completed⟩ := ih next complete (List.cons.inj groups).2.symm
              refine ⟨⟨.closeGroup, 0⟩ :: rest, output, ?_⟩
              rw [List.foldlM_cons, stepped]
              exact completed

theorem exists_completion (expression : Text) (progress : Progress) :
    ∃ (rest : List Placed) (output : List Token),
      (rest.foldlM (step expression) progress).bind (finish expression) = .ok output := by
  cases expects : progress.expectsOperand with
  | false => exact exists_completion_of_operand expression progress expects
  | true =>
      let next : Progress := ⟨.symbol 0 :: progress.output, progress.pending, false⟩
      have stepped : step expression progress ⟨.symbol 0, 0⟩ = .ok next := by
        simp [step, startsOperand, expects, take, next]
      obtain ⟨rest, output, completed⟩ := exists_completion_of_operand expression next rfl
      refine ⟨⟨.symbol 0, 0⟩ :: rest, output, ?_⟩
      rw [List.foldlM_cons, stepped]
      exact completed

end Progress

section Blame

variable {expression : Text} {beginning : List Placed}

theorem ofPlaced_append (expression : Text) (beginning rest : List Placed) :
    ofPlaced expression (beginning ++ rest) =
      (beginning.foldlM (Progress.step expression) Progress.start).bind fun progress =>
        (rest.foldlM (Progress.step expression) progress).bind (Progress.finish expression) := by
  rw [ofPlaced, List.foldlM_append]
  cases beginning.foldlM (Progress.step expression) Progress.start <;> rfl

theorem isViable_iff : IsViable expression beginning ↔
    ∃ progress, beginning.foldlM (Progress.step expression) Progress.start = .ok progress := by
  constructor
  · rintro ⟨rest, output, converted⟩
    rw [ofPlaced_append] at converted
    cases run : beginning.foldlM (Progress.step expression) Progress.start with
    | error fault =>
        rw [run] at converted
        cases converted
    | ok progress => exact ⟨progress, rfl⟩
  · rintro ⟨progress, run⟩
    obtain ⟨rest, output, completed⟩ := Progress.exists_completion expression progress
    refine ⟨rest, output, ?_⟩
    rw [ofPlaced_append, run]
    exact completed

theorem IsViable.of_prefix {placed : List Placed} (viable : IsViable expression placed)
    (begins : beginning <+: placed) : IsViable expression beginning := by
  obtain ⟨more, rfl⟩ := begins
  obtain ⟨rest, output, converted⟩ := viable
  exact ⟨more ++ rest, output, by rwa [← List.append_assoc]⟩

theorem exists_blames_of_stuck {before after : List Placed} {entry : Placed}
    (known : ∀ text, entry.token ≠ .other text) (viable : IsViable expression before)
    (stuck : ¬IsViable expression (before ++ [entry])) :
    ∃ words, IsImpossible before entry.token words ∧
      Blames expression (before ++ entry :: after) words entry.token.symbol?.toList
        entry.position := by
  obtain ⟨progress, run⟩ := isViable_iff.mp viable
  have stands : Progress.StandsBehind before progress := Progress.standsBehind_start.run run
  have converted := ofPlaced_append expression before (entry :: after)
  have outcome := Progress.outcome_step expression progress entry
  rw [run] at converted
  cases stepped : Progress.step expression progress entry with
  | ok next =>
      have further : (before ++ [entry]).foldlM (Progress.step expression) Progress.start =
          .ok next := by
        rw [List.foldlM_append, run]
        exact foldlM_cons_eq_ok_iff.mpr ⟨next, stepped, rfl⟩
      exact absurd (isViable_iff.mpr ⟨next, further⟩) stuck
  | error fault =>
      rw [Except.bind, List.foldlM_cons, stepped] at converted
      rw [stepped] at outcome
      cases outcome with
      | operand starts expects =>
          exact ⟨_, .operand starts (stands.expects ▸ expects), blames_of_fail converted⟩
      | operator starts expects =>
          exact ⟨_, .operator starts (stands.expects ▸ expects), blames_of_fail converted⟩
      | unmatched closes expects nothing =>
          have leaves := stands.groups
          rw [nothing] at leaves
          rw [closes]
          exact ⟨_, .closeGroup (stands.expects ▸ expects) leaves.not_hasOpenGroup,
            blames_of_fail converted⟩
      | unknown isOther => exact absurd isOther (known _)

theorem blames_at_end {placed : List Placed} (viable : IsViable expression placed)
    (rejected : ∀ output, ofPlaced expression placed ≠ .ok output) :
    (awaitsOperand placed = true →
      ofPlaced expression placed = .error (.parsing
        { reason := .missingOperandAtEnd, expression := some expression,
          position := some expression.length })) ∧
    (awaitsOperand placed = false →
      ∃ opening, IsLastOpen placed opening ∧
        Blames expression placed "Unbalanced parentheses: unmatched '('" []
          opening.position) := by
  obtain ⟨progress, run⟩ := isViable_iff.mp viable
  have stands : Progress.StandsBehind placed progress := Progress.standsBehind_start.run run
  have finished : ofPlaced expression placed = Progress.finish expression progress := by
    rw [ofPlaced, run]
    rfl
  rw [Progress.finish_eq, stands.expects] at finished
  constructor
  · intro due
    rw [due, if_pos rfl, Symbolic.fail,
      ParsingReason.fault_of_within (Nat.le_refl _) (List.forall_mem_nil _)] at finished
    exact finished
  · intro complete
    have leaves := stands.groups
    rw [complete, if_neg Bool.false_ne_true] at finished
    cases isOpen : progress.groups with
    | nil =>
        rw [isOpen] at finished
        exact absurd finished (rejected _)
    | cons position outer =>
        rw [isOpen] at finished leaves
        obtain ⟨opening, isLast, rfl⟩ := leaves.exists_isLastOpen
        exact ⟨opening, isLast, blames_of_fail finished⟩

/-- The first token that no continuation can repair is blamed. If all beginnings can be completed,
a missing operand at the end is blamed, or else the last parenthesis that is not closed. -/
theorem ofPlaced_blames (expression : Text) (placed : List Placed)
    (known : ∀ entry ∈ placed, ∀ text, entry.token ≠ .other text) :
    (∀ before entry after, placed = before ++ entry :: after → IsViable expression before →
      ¬IsViable expression (before ++ [entry]) →
      ∃ words, IsImpossible before entry.token words ∧
        Blames expression placed words entry.token.symbol?.toList entry.position) ∧
    ((∀ beginning, beginning <+: placed → IsViable expression beginning) →
      (∀ output, ofPlaced expression placed ≠ .ok output) →
      (awaitsOperand placed = true →
        ofPlaced expression placed = .error (.parsing
          { reason := .missingOperandAtEnd, expression := some expression,
            position := some expression.length })) ∧
      (awaitsOperand placed = false →
        ∃ opening, IsLastOpen placed opening ∧
          Blames expression placed "Unbalanced parentheses: unmatched '('" []
            opening.position)) := by
  constructor
  · rintro before entry after rfl viable stuck
    exact exists_blames_of_stuck (known entry (by simp)) viable stuck
  · intro viable rejected
    exact blames_at_end (viable placed (List.prefix_refl placed)) rejected

theorem ofPlaced_blames_parentheses :
    Blames "A)".toList [⟨.symbol 0, 0⟩, ⟨.closeGroup, 1⟩]
      "Unbalanced parentheses: unmatched ')'" [] 1 ∧
    ofPlaced "A&&".toList [⟨.symbol 0, 0⟩, ⟨.connective .and, 1⟩] = .error (.parsing
      { reason := .missingOperandAtEnd, expression := some "A&&".toList, position := some 3 }) ∧
    ∃ opening,
      IsLastOpen [⟨.openGroup, 0⟩, ⟨.openGroup, 1⟩, ⟨.symbol 0, 2⟩, ⟨.closeGroup, 3⟩] opening ∧
      Blames "((A)".toList [⟨.openGroup, 0⟩, ⟨.openGroup, 1⟩, ⟨.symbol 0, 2⟩, ⟨.closeGroup, 3⟩]
        "Unbalanced parentheses: unmatched '('" [] opening.position := by
  refine ⟨?_, ?_, ?_⟩
  · have known : ∀ entry ∈ [Placed.mk (.symbol 0) 0, ⟨.closeGroup, 1⟩],
        ∀ text, entry.token ≠ .other text := by simp
    have viable : IsViable "A)".toList [⟨.symbol 0, 0⟩] := ⟨[], [.symbol 0], rfl⟩
    have stuck : ¬IsViable "A)".toList [⟨.symbol 0, 0⟩, ⟨.closeGroup, 1⟩] := by
      rintro ⟨_, _, ⟨⟩⟩
    obtain ⟨words, impossible, blamed⟩ :=
      (ofPlaced_blames "A)".toList _ known).1 [⟨.symbol 0, 0⟩] ⟨.closeGroup, 1⟩ [] rfl viable stuck
    cases impossible with
    | operand starts => cases starts
    | operator _ due => cases due
    | closeGroup => exact blamed
  · have known : ∀ entry ∈ [Placed.mk (.symbol 0) 0, ⟨.connective .and, 1⟩],
        ∀ text, entry.token ≠ .other text := by simp
    have viable : IsViable "A&&".toList [⟨.symbol 0, 0⟩, ⟨.connective .and, 1⟩] :=
      ⟨[⟨.symbol 0, 3⟩], [.symbol 0, .symbol 0, .connective .and], rfl⟩
    exact ((ofPlaced_blames "A&&".toList _ known).2 (fun _ begins => viable.of_prefix begins)
      nofun).1 rfl
  · have known : ∀ entry ∈ [Placed.mk .openGroup 0, ⟨.openGroup, 1⟩, ⟨.symbol 0, 2⟩,
        ⟨.closeGroup, 3⟩], ∀ text, entry.token ≠ .other text := by simp
    have viable : IsViable "((A)".toList [⟨.openGroup, 0⟩, ⟨.openGroup, 1⟩, ⟨.symbol 0, 2⟩,
        ⟨.closeGroup, 3⟩] := ⟨[⟨.closeGroup, 4⟩], [.symbol 0], rfl⟩
    exact ((ofPlaced_blames "((A)".toList _ known).2 (fun _ begins => viable.of_prefix begins)
      nofun).2 rfl

theorem not_ofPlaced_blames :
    let before : List Placed := [⟨.symbol 0, 0⟩]
    let entry : Placed := ⟨.symbol Text.digitBound, 1⟩
    IsViable [] before ∧ ¬IsViable [] (before ++ [entry]) ∧
      ¬∃ fault, ofPlaced [] (before ++ [entry]) = .error (.parsing fault) := by
  intro before entry
  have failed : ∀ rest, ofPlaced [] (before ++ [entry] ++ rest) =
      .error ((ParsingReason.missingOperatorBefore entry.token).fault [] 1) := fun _ => rfl
  have unwritten : (ParsingReason.missingOperatorBefore entry.token).fault [] 1 =
      .tooManyDigits :=
    ParsingReason.fault_of_not_writable List.mem_cons_self
      (Text.isWritableIn_eq_false_iff.mpr
        ⟨.inr (Int.natCast_pos.mpr Text.digitBound_pos), Text.digitBound_le_natAbs⟩)
  refine ⟨⟨[], [.symbol 0], rfl⟩, ?_, ?_⟩
  · rintro ⟨rest, output, converted⟩
    rw [failed] at converted
    cases converted
  · rintro ⟨fault, raised⟩
    rw [← List.append_nil (before ++ [entry]), failed, unwritten] at raised
    cases raised

end Blame

end EventFilter.Postorder
