import EventFilter.Proofs.Span.Tiling

/-!
What follows a token.

A token is read up to where it ends because of what follows it. So another text can follow it as
well, as long as this one ends keywords and operands in the same way.
-/

namespace EventFilter

namespace PredicateParts

theorem isBare_of_startsName (character : Char) (starts : startsName character = true) :
    isBare character = true := by
  have visible := not_isBlank_of_startsName starts
  simp only [isBare, visible, Bool.not_false, Bool.true_and, Bool.and_eq_true, bne_iff_ne]
  refine ⟨⟨⟨⟨?_, ?_⟩, ?_⟩, ?_⟩, ?_⟩ <;> rintro rfl <;> cases starts

theorem not_isBare_of_isBlank (character : Char) (blank : Text.isBlank character = true) :
    isBare character = false := by
  simp [isBare, blank]

theorem operandLength?_eq_none_iff_stops {text : Text} (unquoted : text.head? ≠ some '"') :
    operandLength? text = none ↔ Text.Stops isBare text := by
  cases text with
  | nil => simp [operandLength?, Text.Stops]
  | cons first rest =>
      have distinct : first ≠ '"' := by simpa using unquoted
      unfold operandLength?
      split
      · rename_i same
        exact absurd (List.cons.inj same).1 distinct
      · cases bare : isBare first <;> simp [bare, Text.Stops]

end PredicateParts

variable {keywords : Bool} {text : Text} {marks : List (Mark Text)}

theorem Reads.unquoted (reads : Reads .standard keywords text marks) :
    (text.dropWhile Text.isBlank).head? ≠ some '"' := by
  obtain ⟨gap, rest, rfl, blank, stops⟩ := Text.exists_split Text.isBlank text
  rw [Text.dropWhile_append_of_stops blank stops]
  intro quoted
  obtain ⟨tail, rfl⟩ := List.head?_eq_some_iff.mp quoted
  have stuck := Spans.isStuck_of_beginsNothing (.inr (.inr (.inr rfl))) keywords tail
  exact stuck.not_reads (reads.of_blanks blank)

theorem Reads.operandLength?_eq_none_iff (reads : Reads .standard keywords text marks) :
    PredicateParts.operandLength? (text.dropWhile Text.isBlank) = none ↔
      Text.Stops PredicateParts.isBare (text.dropWhile Text.isBlank) :=
  PredicateParts.operandLength?_eq_none_iff_stops reads.unquoted

namespace Lexeme

variable {lexeme : Lexeme} {written following other : Text}

theorem not_opensWithKeyword_of_operator? (missing : operator? true (text ++ following) = none) :
    ¬OpensWithKeyword text := by
  rintro ⟨operator, word, rest, next, rfl, spelled, stops⟩
  have ends : endsKeyword (next :: (rest ++ following)) = true := endsKeyword_of_stops stops
  rw [List.append_assoc, List.cons_append, operator?_keyword spelled ends] at missing
  cases missing

theorem begins_predicate_iff :
    Begins .standard keywords .predicate text following ↔
      Predicate.isValid text = true ∧ (keywords = true → ¬OpensWithKeyword text) ∧
        PredicateParts.scan (text ++ following) = some text.length := by
  constructor
  · rintro ⟨⟩
    rename_i present noOperator longest
    have valid := PredicateParts.scan_sound longest
    rw [List.take_left] at valid
    refine ⟨valid, ?_, longest⟩
    rintro rfl
    exact not_opensWithKeyword_of_operator? noOperator
  · rintro ⟨valid, plain, exact⟩
    exact (begins_iff PredicateKind.isSound_standard).mpr (first?_predicate valid plain exact)

theorem Begins.visible (begins : Begins .standard keywords lexeme written following) :
    Text.Stops Text.isBlank written := by
  cases begins with
  | symbol operator => cases operator <;> rintro _ ⟨⟩ <;> rfl
  | keyword _ spelled =>
      obtain ⟨first, rest, rfl, starts, _⟩ := isName_of_spelled spelled
      rintro _ ⟨⟩
      exact PredicateParts.not_isBlank_of_startsName starts
  | openGroup | closeGroup =>
      rintro _ ⟨⟩
      rfl
  | predicate present noOperator longest =>
      exact visible_of_isValid (begins_predicate_iff.mp (.predicate present noOperator longest)).1

theorem Begins.reads (begins : Begins .standard keywords lexeme written following)
    (reads : Reads .standard keywords following marks) :
    Reads .standard keywords (written ++ following) (lexeme.mark written :: marks) :=
  reads.append (begins.isWritten PredicateKind.isSound_standard).ne_nil begins.visible begins.first?

/-- Behind a token can stand any text that stops it in the same way. -/
theorem Begins.follow (begins : Begins .standard keywords lexeme written following)
    (ends : (lexeme.mark written).endsOperand = false → endsKeyword following = true →
      endsKeyword other = true)
    (stops : Text.Stops PredicateParts.isBare following →
      Text.Stops PredicateParts.isBare other)
    (bound : lexeme = .predicate → PredicateParts.IsBareBound written →
      PredicateParts.operandLength? (following.dropWhile Text.isBlank) = none →
      PredicateParts.operandLength? (other.dropWhile Text.isBlank) = none) :
    Begins .standard keywords lexeme written other := by
  cases begins with
  | symbol operator => exact .symbol operator
  | keyword isOn spelled endsHere => exact .keyword isOn spelled (ends rfl endsHere)
  | openGroup => exact .openGroup
  | closeGroup => exact .closeGroup
  | predicate present noOperator longest =>
      obtain ⟨valid, plain, exact⟩ :=
        begins_predicate_iff.mp (.predicate present noOperator longest)
      obtain ⟨length, found, _, exactly⟩ := PredicateParts.scan_append valid following
      obtain ⟨otherLength, otherFound, _, otherExactly⟩ := PredicateParts.scan_append valid other
      rw [exact, Option.some_inj] at found
      obtain ⟨quotedOrStops, isUnbound⟩ := exactly.mp found.symm
      have same : otherLength = written.length := otherExactly.mpr
        ⟨quotedOrStops.imp_right stops, fun isBound => bound rfl isBound (isUnbound isBound)⟩
      exact begins_predicate_iff.mpr ⟨valid, plain, by rw [otherFound, same]⟩

theorem Begins.replace {others : List (Mark Text)} {otherKeywords : Bool}
    (begins : Begins .standard keywords lexeme written following)
    (reads : Reads .standard keywords following marks)
    (readsOther : Reads .standard otherKeywords other others)
    (ends : (lexeme.mark written).endsOperand = false → endsKeyword following = true →
      endsKeyword other = true)
    (stops : Text.Stops PredicateParts.isBare following →
      Text.Stops PredicateParts.isBare other)
    (stopsVisible : Text.Stops PredicateParts.isBare (following.dropWhile Text.isBlank) →
      Text.Stops PredicateParts.isBare (other.dropWhile Text.isBlank)) :
    Begins .standard keywords lexeme written other := by
  refine begins.follow ends stops fun _ _ nothing => ?_
  rw [reads.operandLength?_eq_none_iff] at nothing
  exact readsOther.operandLength?_eq_none_iff.mpr (stopsVisible nothing)

end Lexeme

theorem Spans.Located.reads {offset : Nat} {found : Spans}
    (located : Located .standard keywords offset text found)
    (recognised : found.unrecognised = none) :
    Reads .standard keywords text (found.spans.map Span.mark) := by
  induction located with
  | nil => exact .nil
  | blank isBlank located ih => exact .blank isBlank (ih recognised)
  | unrecognised => cases recognised
  | token begins visible located ih => exact begins.reads (ih recognised)

end EventFilter
