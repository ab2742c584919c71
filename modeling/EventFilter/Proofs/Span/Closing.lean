import EventFilter.Proofs.Span.Following

/-!
Texts in parentheses.

A parenthesis behind a text that is read as a whole changes none of its tokens: no operand goes on
with `)`, and a keyword that the end of the text ends has no operand behind it.
-/

namespace EventFilter

variable {text following tail : Text} {marks after : List (Mark Text)} {expectsOperand : Bool}

namespace PredicateParts

theorem stops_append_close (stops : Text.Stops isBare following) (tail : Text) :
    Text.Stops isBare (following ++ ')' :: tail) := by
  cases following with
  | nil =>
      rintro _ ⟨⟩
      rfl
  | cons first rest => exact stops

theorem stops_dropWhile_append_close
    (stops : Text.Stops isBare (following.dropWhile Text.isBlank)) (tail : Text) :
    Text.Stops isBare ((following ++ ')' :: tail).dropWhile Text.isBlank) := by
  obtain ⟨gap, rest, rfl, blank, visible⟩ := Text.exists_split Text.isBlank following
  have visibleHere : Text.Stops Text.isBlank (rest ++ ')' :: tail) := by
    cases rest with
    | nil =>
        rintro _ ⟨⟩
        rfl
    | cons first rest => exact visible
  rw [Text.dropWhile_append_of_stops blank visible] at stops
  rw [List.append_assoc, Text.dropWhile_append_of_stops blank visibleHere]
  exact stops_append_close stops tail

end PredicateParts

theorem Spans.Located.append_close {offset : Nat} {found : Spans}
    (located : Located .standard true offset text found) (recognised : found.unrecognised = none)
    (turns : Mark.TakesTurns expectsOperand (found.spans.map Span.mark))
    (behind : Reads .standard true tail after) :
    Reads .standard true (text ++ ')' :: tail)
      (found.spans.map Span.mark ++ .closeGroup :: after) := by
  induction located generalizing expectsOperand with
  | nil => exact behind.closeGroup
  | blank isBlank located ih => exact .blank isBlank (ih recognised turns)
  | unrecognised => cases recognised
  | token begins visible located ih =>
      rename_i offset lexeme written rest found
      have reads := located.reads recognised
      have readsClosed := ih recognised turns.2
      -- A keyword that ends the text would want an operand behind it.
      have ends : (lexeme.mark written).endsOperand = false → Lexeme.endsKeyword rest = true →
          Lexeme.endsKeyword (rest ++ ')' :: tail) = true := by
        intro wantsMore endsHere
        cases rest with
        | cons next rest => exact endsHere
        | nil =>
            have last : Mark.TakesTurns (!(lexeme.mark written).endsOperand)
                (found.spans.map Span.mark) := turns.2
            rw [reads.unique .nil, wantsMore] at last
            cases last
      have closed := begins.replace reads readsClosed ends
        (fun stops => PredicateParts.stops_append_close stops tail)
        (fun stops => PredicateParts.stops_dropWhile_append_close stops tail)
      rw [List.append_assoc]
      exact closed.reads readsClosed

theorem Reads.append_close (reads : Reads .standard true text marks)
    (turns : Mark.TakesTurns expectsOperand marks) (behind : Reads .standard true tail after) :
    Reads .standard true (text ++ ')' :: tail) (marks ++ .closeGroup :: after) := by
  obtain ⟨recognised, rfl⟩ := (Reads.iff_ofText text marks).mp reads
  have located := Spans.located_ofText PredicateKind.isSound_standard true text
  exact located.append_close recognised turns behind

end EventFilter
