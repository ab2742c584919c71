import EventFilter.Proofs.Span.Following

/-!
The spans of two texts with white space between them.

No token of the first text goes on beyond the white space, so the spans of the whole are those of
the first text and then those of the second one. Only a predicate that ends in `>=` or `<=` looks
for its operand behind the white space.
-/

namespace EventFilter

variable {Effect : Type → Type} {Item : Type} {kind : PredicateKind Effect Item} {keywords : Bool}

def Span.shift (distance : Nat) (span : Span) : Span :=
  { span with start := span.start + distance }

namespace Spans

def shift (distance : Nat) (found : Spans) : Spans :=
  ⟨found.spans.map (Span.shift distance), found.unrecognised.map (· + distance)⟩

/-- The last span is no predicate that ends in `>=` or `<=`. -/
def EndsUnbound (spans : List Span) : Prop :=
  ∀ span ∈ spans.getLast?, span.lexeme = .predicate → ¬PredicateParts.IsBareBound span.text

section Ends

variable {span : Span} {spans : List Span}

theorem EndsUnbound.tail (ends : EndsUnbound (span :: spans)) : EndsUnbound spans := by
  intro last inside
  apply ends
  cases spans with
  | nil => cases inside
  | cons second others => exact inside

theorem EndsUnbound.single (ends : EndsUnbound (span :: spans)) (nothing : spans = []) :
    span.lexeme = .predicate → ¬PredicateParts.IsBareBound span.text := by
  subst nothing
  exact ends span rfl

end Ends

namespace Located

variable {offset : Nat} {text : Text} {found : Spans}

theorem eq_ofTextFrom (sound : kind.IsSound) (located : Located kind keywords offset text found) :
    found = ofTextFrom kind keywords offset text := by
  induction located with
  | nil => rw [ofTextFrom]
  | blank isBlank located ih => rw [ofTextFrom, if_pos isBlank, ih]
  | unrecognised visible missing =>
      rw [ofTextFrom, visible, if_neg Bool.false_ne_true, missing]
  | @token offset lexeme written rest found begins visible located ih =>
      have first := begins.first?
      obtain ⟨head, others, rfl⟩ := List.exists_cons_of_ne_nil (begins.isWritten sound).ne_nil
      have remaining : (others ++ rest).drop ((head :: others).length - 1) = rest :=
        List.drop_left
      have taken : (head :: (others ++ rest)).take (head :: others).length = head :: others :=
        List.take_left
      rw [List.cons_append] at first ⊢
      rw [ofTextFrom, visible head rfl, if_neg Bool.false_ne_true, first]
      simp only [remaining, taken, ← ih]

theorem shift (located : Located kind keywords offset text found) (distance : Nat) :
    Located kind keywords (offset + distance) text (found.shift distance) := by
  induction located with
  | nil => exact .nil
  | blank isBlank located ih =>
      rw [Nat.add_right_comm] at ih
      exact .blank isBlank ih
  | unrecognised visible missing => exact .unrecognised visible missing
  | token begins visible located ih =>
      rw [Nat.add_right_comm] at ih
      exact .token begins visible ih

theorem blanks {gap : Text} (blank : gap.all Text.isBlank = true)
    (located : Located kind keywords (offset + gap.length) text found) :
    Located kind keywords offset (gap ++ text) found := by
  induction gap generalizing offset with
  | nil => exact located
  | cons first rest ih =>
      simp only [List.all_cons, Bool.and_eq_true] at blank
      rw [List.length_cons, Nat.add_comm rest.length, ← Nat.add_assoc] at located
      exact .blank blank.1 (ih blank.2 located)

theorem spans_eq_nil (located : Located .standard keywords offset text found)
    (recognised : found.unrecognised = none) (nothing : text.dropWhile Text.isBlank = []) :
    found.spans = [] := by
  obtain ⟨gap, rest, rfl, blank, stops⟩ := Text.exists_split Text.isBlank text
  rw [Text.dropWhile_append_of_stops blank stops] at nothing
  subst nothing
  have reads : Reads .standard keywords (gap ++ []) [] := Reads.blanks blank .nil
  exact List.map_eq_nil_iff.mp ((located.reads recognised).unique reads)

theorem operandLength?_append (located : Located .standard keywords offset text found)
    (recognised : found.unrecognised = none) (present : found.spans ≠ [])
    (nothing : PredicateParts.operandLength? (text.dropWhile Text.isBlank) = none)
    (following : Text) :
    PredicateParts.operandLength? ((text ++ following).dropWhile Text.isBlank) = none := by
  have reads := located.reads recognised
  have unquoted := reads.unquoted
  rw [reads.operandLength?_eq_none_iff] at nothing
  cases visible : text.dropWhile Text.isBlank with
  | nil => exact absurd (located.spans_eq_nil recognised visible) present
  | cons first rest =>
      rw [visible] at nothing unquoted
      rw [List.dropWhile_append, visible, List.isEmpty_cons, if_neg Bool.false_ne_true,
        List.cons_append]
      have unquotedHere : (first :: (rest ++ following)).head? ≠ some '"' := unquoted
      exact (PredicateParts.operandLength?_eq_none_iff_stops unquotedHere).mpr nothing

section Append

variable {gap other : Text} {behind : Spans} (present : gap ≠ [])
  (blank : gap.all Text.isBlank = true)

include present blank

theorem stops_append_gap {isTaken : Char → Bool}
    (leavesBlanks : ∀ first, Text.isBlank first = true → isTaken first = false)
    (stops : Text.Stops isTaken text) : Text.Stops isTaken (text ++ (gap ++ other)) := by
  cases text with
  | nil =>
      obtain ⟨first, rest, rfl⟩ := List.exists_cons_of_ne_nil present
      simp only [List.all_cons, Bool.and_eq_true] at blank
      rintro _ ⟨⟩
      exact leavesBlanks first blank.1
  | cons first rest => exact stops

theorem endsKeyword_append_gap (ends : Lexeme.endsKeyword text = true) :
    Lexeme.endsKeyword (text ++ (gap ++ other)) = true := by
  cases text with
  | nil =>
      obtain ⟨first, rest, rfl⟩ := List.exists_cons_of_ne_nil present
      simp only [List.all_cons, Bool.and_eq_true] at blank
      exact Lexeme.endsKeyword_of_stops (.inl blank.1)
  | cons first rest => exact ends

theorem append (located : Located .standard keywords offset text found)
    (recognised : found.unrecognised = none) (ends : EndsUnbound found.spans)
    (following : Located .standard keywords (offset + (text ++ gap).length) other behind) :
    Located .standard keywords offset (text ++ (gap ++ other))
      ⟨found.spans ++ behind.spans, behind.unrecognised⟩ := by
  induction located with
  | nil =>
      rw [List.nil_append] at following ⊢
      exact blanks blank following
  | @blank offset first rest found isBlank located ih =>
      have distance : offset + ((first :: rest) ++ gap).length =
          offset + 1 + (rest ++ gap).length := by
        simp only [List.cons_append, List.length_cons]
        omega
      rw [distance] at following
      exact .blank isBlank (ih recognised ends following)
  | unrecognised => cases recognised
  | @token offset lexeme written rest found begins visible located ih =>
      have distance : offset + ((written ++ rest) ++ gap).length =
          offset + written.length + (rest ++ gap).length := by
        simp only [List.length_append]
        omega
      rw [distance] at following
      have begins : Lexeme.Begins .standard keywords lexeme written (rest ++ (gap ++ other)) := by
        refine begins.follow (fun _ => endsKeyword_append_gap present blank)
          (stops_append_gap present blank PredicateParts.not_isBare_of_isBlank)
          fun isPredicate isBound nothing => ?_
        by_cases last : found.spans = []
        · exact absurd isBound (ends.single last isPredicate)
        · exact located.operandLength?_append recognised last nothing _
      rw [List.append_assoc]
      exact .token begins visible (ih recognised ends.tail following)

end Append

end Located

variable {text gap : Text}

/-- The spans of a text, of white space and of another text are those of both texts. -/
theorem ofText_append (recognised : (ofText .standard keywords text).unrecognised = none)
    (ends : EndsUnbound (ofText .standard keywords text).spans) (present : gap ≠ [])
    (blank : gap.all Text.isBlank = true) (other : Text) :
    ofText .standard keywords (text ++ (gap ++ other)) =
      ⟨(ofText .standard keywords text).spans ++
          ((ofText .standard keywords other).shift (text ++ gap).length).spans,
        ((ofText .standard keywords other).shift (text ++ gap).length).unrecognised⟩ := by
  have sound := PredicateKind.isSound_standard
  have following := (located_ofText sound keywords other).shift (text ++ gap).length
  have whole := (located_ofText sound keywords text).append present blank recognised ends following
  exact (whole.eq_ofTextFrom sound).symm

end Spans

end EventFilter
