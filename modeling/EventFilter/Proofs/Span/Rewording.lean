import EventFilter.Proofs.Span.Following

/-!
Texts with the same tokens.

White space can be put anywhere between the tokens of a text, and its connectives can be written
as symbols. No token ends earlier or later by this, so the new text is read as the same tokens.
-/

namespace EventFilter

namespace Lexeme

def spelled (lexeme : Lexeme) (written : Text) : Text :=
  match lexeme with
  | connective operator => operator.spelling
  | _ => written

theorem Begins.spelled_eq {Effect : Type → Type} {Item : Type} {kind : PredicateKind Effect Item}
    {keywords : Bool} {lexeme : Lexeme} {written following : Text}
    (begins : Begins kind keywords lexeme written following)
    (unnamed : Text.Stops PredicateParts.startsName written) :
    lexeme.spelled written = written := by
  cases begins with
  | symbol | openGroup | closeGroup | predicate => rfl
  | keyword _ spelled =>
      obtain ⟨first, rest, rfl, starts, _⟩ := isName_of_spelled spelled
      rw [unnamed first rfl] at starts
      cases starts

theorem Begins.spelled {keywords : Bool} {lexeme : Lexeme} {written following : Text}
    (begins : Begins .standard true lexeme written following) :
    Begins .standard keywords lexeme (lexeme.spelled written) following := by
  cases begins with
  | symbol operator | keyword => exact .symbol _
  | openGroup => exact .openGroup
  | closeGroup => exact .closeGroup
  | predicate present noOperator longest =>
      obtain ⟨valid, plain, exact⟩ :=
        begins_predicate_iff.mp (.predicate present noOperator longest)
      exact begins_predicate_iff.mpr ⟨valid, fun _ => plain rfl, exact⟩

theorem mark_spelled (lexeme : Lexeme) (written : Text) :
    lexeme.mark (lexeme.spelled written) = lexeme.mark written := by
  cases lexeme <;> rfl

def continuesKeyword (character : Char) : Bool :=
  !(Text.isBlank character || character == '(' || character == '!')

theorem endsKeyword_iff_stops {text : Text} :
    endsKeyword text = true ↔ Text.Stops continuesKeyword text := by
  cases text with
  | nil => simp [endsKeyword, Text.Stops]
  | cons first rest =>
      simp only [endsKeyword, Text.Stops, List.head?_cons, Option.mem_def, Option.some.injEq,
        forall_eq', continuesKeyword, Bool.not_eq_false']

theorem continuesKeyword_of_startsName (first : Char)
    (starts : PredicateParts.startsName first = true) : continuesKeyword first = true := by
  cases continues : continuesKeyword first with
  | true => rfl
  | false =>
      have ends : endsKeyword [first] = true := by
        rw [endsKeyword_iff_stops]
        rintro _ ⟨⟩
        exact continues
      have stops := not_continuesName_of_endsKeyword ends
      rw [PredicateParts.continuesName_of_startsName starts] at stops
      cases stops

theorem not_continuesKeyword (first : Char) (isBlank : Text.isBlank first = true) :
    continuesKeyword first = false := by
  simp [continuesKeyword, isBlank]

end Lexeme

/-- A text, another one with more white space between the tokens, and the tokens. The other one is
to be read with keywords or without, and its connectives can be written as symbols. -/
inductive Rewords (keywords : Bool) : Text → Text → List (Mark Text) → Prop
  | nil : Rewords keywords [] [] []
  | blank {first : Char} {rest other : Text} {marks : List (Mark Text)} :
      Text.isBlank first = true → Rewords keywords rest other marks →
      Rewords keywords (first :: rest) (first :: other) marks
  | space {first : Char} {text other : Text} {marks : List (Mark Text)} :
      Text.isBlank first = true → Rewords keywords text other marks →
      Rewords keywords text (first :: other) marks
  | token {lexeme : Lexeme} {written rewritten rest other : Text} {marks : List (Mark Text)} :
      lexeme.Begins .standard true written rest →
      rewritten = lexeme.spelled written ∨ keywords = true ∧ rewritten = written →
      Rewords keywords rest other marks →
      Rewords keywords (written ++ rest) (rewritten ++ other) (lexeme.mark written :: marks)

namespace Rewords

variable {keywords : Bool} {text other : Text} {marks : List (Mark Text)}

theorem spaces {gap : Text} (blank : gap.all Text.isBlank)
    (rewords : Rewords keywords text other marks) :
    Rewords keywords text (gap ++ other) marks := by
  induction gap with
  | nil => exact rewords
  | cons first rest ih =>
      simp only [List.all_cons, Bool.and_eq_true] at blank
      exact .space blank.1 (ih blank.2)

theorem reads (rewords : Rewords keywords text other marks) :
    Reads .standard true text marks := by
  induction rewords with
  | nil => exact .nil
  | blank isBlank rewords ih => exact .blank isBlank ih
  | space isBlank rewords ih => exact ih
  | token begins written rewords ih => exact begins.reads ih

section Stops

variable {isTaken : Char → Bool}

theorem rewritten_eq {lexeme : Lexeme} {written rewritten following : Text}
    (takesNames : ∀ first, PredicateParts.startsName first = true → isTaken first = true)
    (begins : lexeme.Begins .standard true written following)
    (same : rewritten = lexeme.spelled written ∨ keywords = true ∧ rewritten = written)
    (stops : Text.Stops isTaken written) : rewritten = written := by
  rcases same with rfl | ⟨_, rfl⟩
  · apply begins.spelled_eq
    intro first inside
    cases starts : PredicateParts.startsName first with
    | false => rfl
    | true => exact (takesNames first starts).symm.trans (stops first inside)
  · rfl

theorem stops (takesNames : ∀ first, PredicateParts.startsName first = true → isTaken first = true)
    (leavesBlanks : ∀ first, Text.isBlank first = true → isTaken first = false)
    (rewords : Rewords keywords text other marks) (stopsText : Text.Stops isTaken text) :
    Text.Stops isTaken other := by
  induction rewords with
  | nil => exact stopsText
  | blank isBlank | space isBlank =>
      rintro _ ⟨⟩
      exact leavesBlanks _ isBlank
  | token begins same rewords =>
      have present := (begins.isWritten PredicateKind.isSound_standard).ne_nil
      have stopsWritten := (Text.stops_append_iff present).mp stopsText
      rw [rewritten_eq takesNames begins same stopsWritten]
      exact Text.stops_append present stopsWritten _

theorem stops_dropWhile
    (takesNames : ∀ first, PredicateParts.startsName first = true → isTaken first = true)
    (rewords : Rewords keywords text other marks)
    (stopsText : Text.Stops isTaken (text.dropWhile Text.isBlank)) :
    Text.Stops isTaken (other.dropWhile Text.isBlank) := by
  induction rewords with
  | nil => exact stopsText
  | blank isBlank rewords ih =>
      rw [List.dropWhile_cons_of_pos isBlank] at stopsText ⊢
      exact ih stopsText
  | space isBlank rewords ih =>
      rw [List.dropWhile_cons_of_pos isBlank]
      exact ih stopsText
  | token begins same rewords =>
      have present := (begins.isWritten PredicateKind.isSound_standard).ne_nil
      have visible := Text.stops_append present begins.visible
      rw [Text.dropWhile_eq_self_of_stops (visible _)] at stopsText
      have stopsWritten := (Text.stops_append_iff present).mp stopsText
      rw [rewritten_eq takesNames begins same stopsWritten,
        Text.dropWhile_eq_self_of_stops (visible _)]
      exact Text.stops_append present stopsWritten _

end Stops

theorem readsOther (rewords : Rewords keywords text other marks) :
    Reads .standard keywords other marks := by
  induction rewords with
  | nil => exact .nil
  | blank isBlank rewords ih | space isBlank rewords ih => exact .blank isBlank ih
  | token begins same rewords ih =>
      rename_i lexeme written rewritten rest other marks
      have ends : Lexeme.endsKeyword rest = true → Lexeme.endsKeyword other = true := by
        rw [Lexeme.endsKeyword_iff_stops, Lexeme.endsKeyword_iff_stops]
        exact rewords.stops Lexeme.continuesKeyword_of_startsName Lexeme.not_continuesKeyword
      have replaced := begins.replace rewords.reads ih (fun _ => ends)
        (rewords.stops PredicateParts.isBare_of_startsName PredicateParts.not_isBare_of_isBlank)
        (rewords.stops_dropWhile PredicateParts.isBare_of_startsName)
      rcases same with rfl | ⟨rfl, rfl⟩
      · have reads := replaced.spelled.reads ih
        rwa [Lexeme.mark_spelled] at reads
      · exact replaced.reads ih

end Rewords

end EventFilter
