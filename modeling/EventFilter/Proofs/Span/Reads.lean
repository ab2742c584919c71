import EventFilter.Formula.ParseTree
import EventFilter.Span
import EventFilter.Text.Stops

/-!
What an expression is read as.

`Reads` relates a text to the tokens that it is read as, with predicate texts as atoms. It has one
constructor for each step of `Spans.ofText`, and holds exactly where all of a text is recognised.
-/

namespace EventFilter

def Lexeme.mark (lexeme : Lexeme) (text : Text) : Mark Text :=
  match lexeme with
  | connective operator => .connective operator
  | openGroup => .openGroup
  | closeGroup => .closeGroup
  | predicate => .atom text

def Span.mark (span : Span) : Mark Text :=
  span.lexeme.mark span.text

variable {Effect : Type → Type} {Item : Type}

inductive Reads (kind : PredicateKind Effect Item) (keywords : Bool) :
    Text → List (Mark Text) → Prop
  | nil : Reads kind keywords [] []
  | blank {first : Char} {rest : Text} {marks : List (Mark Text)} :
      Text.isBlank first = true → Reads kind keywords rest marks →
      Reads kind keywords (first :: rest) marks
  | token {first : Char} {rest : Text} {lexeme : Lexeme} {length : Nat}
      {marks : List (Mark Text)} :
      Text.isBlank first = false →
      Lexeme.first? kind keywords (first :: rest) = some (lexeme, length) →
      Reads kind keywords (rest.drop (length - 1)) marks →
      Reads kind keywords (first :: rest) (lexeme.mark ((first :: rest).take length) :: marks)

namespace Reads

variable {kind : PredicateKind Effect Item} {keywords : Bool} {text : Text}
  {marks : List (Mark Text)}

theorem run (reads : Reads kind keywords text marks) (offset : Nat) :
    (Spans.ofTextFrom kind keywords offset text).unrecognised = none ∧
      (Spans.ofTextFrom kind keywords offset text).spans.map Span.mark = marks := by
  induction reads generalizing offset with
  | nil =>
      rw [Spans.ofTextFrom]
      exact ⟨rfl, rfl⟩
  | blank isBlank following ih =>
      rw [Spans.ofTextFrom, if_pos isBlank]
      exact ih (offset + 1)
  | token visible found following ih =>
      obtain ⟨recognised, same⟩ := ih (offset + _)
      rw [Spans.ofTextFrom, visible, if_neg Bool.false_ne_true, found]
      exact ⟨recognised, by rw [List.map_cons, same]; rfl⟩

theorem of_run {offset : Nat}
    (recognised : (Spans.ofTextFrom kind keywords offset text).unrecognised = none) :
    Reads kind keywords text
      ((Spans.ofTextFrom kind keywords offset text).spans.map Span.mark) := by
  fun_induction Spans.ofTextFrom kind keywords offset text with
  | case1 => exact .nil
  | case2 offset first rest isBlank ih => exact .blank isBlank (ih recognised)
  | case3 => cases recognised
  | case4 offset first rest visible lexeme length found following ih =>
      exact .token (Bool.not_eq_true _ ▸ visible) found (ih recognised)

/-- A text is read as tokens exactly if all of it is recognised as the spans of these tokens. -/
theorem iff_ofText (text : Text) (marks : List (Mark Text)) :
    Reads kind keywords text marks ↔
      (Spans.ofText kind keywords text).unrecognised = none ∧
        (Spans.ofText kind keywords text).spans.map Span.mark = marks := by
  constructor
  · intro reads
    exact reads.run 0
  · rintro ⟨recognised, rfl⟩
    exact of_run recognised

theorem unique {others : List (Mark Text)} (reads : Reads kind keywords text marks)
    (again : Reads kind keywords text others) : marks = others :=
  (reads.run 0).2.symm.trans (again.run 0).2

theorem blanks {gap : Text} (blank : gap.all Text.isBlank)
    (reads : Reads kind keywords text marks) : Reads kind keywords (gap ++ text) marks := by
  induction gap with
  | nil => exact reads
  | cons first rest ih =>
      simp only [List.all_cons, Bool.and_eq_true] at blank
      exact .blank blank.1 (ih blank.2)

theorem of_blanks {gap : Text} (blank : gap.all Text.isBlank)
    (reads : Reads kind keywords (gap ++ text) marks) : Reads kind keywords text marks := by
  induction gap with
  | nil => exact reads
  | cons first rest ih =>
      simp only [List.all_cons, Bool.and_eq_true] at blank
      cases reads with
      | blank isBlank following => exact ih blank.2 following
      | token visible => simp [blank.1] at visible

theorem first? {lexeme : Lexeme} {length : Nat} (present : text ≠ [])
    (visible : Text.Stops Text.isBlank text) (positive : 0 < length)
    (found : Lexeme.first? kind keywords text = some (lexeme, length))
    (reads : Reads kind keywords (text.drop length) marks) :
    Reads kind keywords text (lexeme.mark (text.take length) :: marks) := by
  obtain ⟨first, rest, rfl⟩ := List.exists_cons_of_ne_nil present
  obtain ⟨below, rfl⟩ : ∃ below, length = below + 1 := ⟨length - 1, by omega⟩
  exact token (visible first rfl) found reads

theorem append {written following : Text} {lexeme : Lexeme} (present : written ≠ [])
    (visible : Text.Stops Text.isBlank written)
    (found : Lexeme.first? kind keywords (written ++ following) = some (lexeme, written.length))
    (reads : Reads kind keywords following marks) :
    Reads kind keywords (written ++ following) (lexeme.mark written :: marks) := by
  have remaining : (written ++ following).drop written.length = following := List.drop_left
  rw [← remaining] at reads
  have whole := first? (List.append_ne_nil_of_left_ne_nil present following)
    (Text.stops_append present visible following) (List.length_pos_iff.mpr present) found reads
  rwa [List.take_left] at whole

theorem symbol (operator : Connective) (reads : Reads kind keywords text marks) :
    Reads kind keywords (operator.spelling ++ text) (.connective operator :: marks) := by
  have visible : Text.Stops Text.isBlank operator.spelling := by
    cases operator <;> rintro _ ⟨⟩ <;> rfl
  have found : Lexeme.first? kind keywords (operator.spelling ++ text) =
      some (.connective operator, operator.spelling.length) := by
    cases operator <;> rfl
  exact append (by cases operator <;> simp [Connective.spelling]) visible found reads

theorem openGroup (reads : Reads kind keywords text marks) :
    Reads kind keywords ('(' :: text) (.openGroup :: marks) := by
  have visible : Text.Stops Text.isBlank ['('] := by
    rintro _ ⟨⟩
    rfl
  have found : Lexeme.first? kind keywords (['('] ++ text) = some (.openGroup, 1) := rfl
  exact append (List.cons_ne_nil '(' []) visible found reads

theorem closeGroup (reads : Reads kind keywords text marks) :
    Reads kind keywords (')' :: text) (.closeGroup :: marks) := by
  have visible : Text.Stops Text.isBlank [')'] := by
    rintro _ ⟨⟩
    rfl
  have found : Lexeme.first? kind keywords ([')'] ++ text) = some (.closeGroup, 1) := rfl
  exact append (List.cons_ne_nil ')' []) visible found reads

end Reads

namespace Spans

def predicates (spans : List Span) : List Text :=
  (spans.map Span.mark).filterMap Mark.atom?

theorem mem_predicates_iff {spans : List Span} {text : Text} :
    text ∈ predicates spans ↔ ∃ span ∈ spans, span.lexeme = .predicate ∧ span.text = text := by
  rw [predicates, List.filterMap_map, List.mem_filterMap]
  refine exists_congr fun span => and_congr_right fun _ => ?_
  obtain ⟨start, lexeme, written⟩ := span
  cases lexeme <;> simp [Span.mark, Lexeme.mark, Mark.atom?]

theorem predicates_concat (before : List Span) {span : Span}
    (isPredicate : span.lexeme = .predicate) :
    predicates (before ++ [span]) = predicates before ++ [span.text] := by
  simp [predicates, Span.mark, isPredicate, Lexeme.mark, Mark.atom?]

end Spans

end EventFilter
