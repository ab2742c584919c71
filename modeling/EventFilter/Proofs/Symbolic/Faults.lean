import EventFilter.Proofs.Fault
import EventFilter.Proofs.Predicate.Unreadable
import EventFilter.Proofs.Symbolic.Numbering

/-!
How numbering the predicates of an expression fails.

The numbering goes on to the first span that cannot be numbered, and its fault is the fault of this
span. Only a new predicate can fail: because the ceiling is reached, or because it cannot be built.
-/

namespace EventFilter.Symbolic

variable {Effect : Type → Type} {Item : Type} {numbering : Numbering Effect Item}
  {expression : Text} {known : List (Text × Item)} {span : Span} {fault : Fault}

inductive IsRefused (numbering : Numbering Effect Item) (expression : Text) (count : Nat)
    (span : Span) : Fault → Prop
  | ceiling {ceiling : Int} : numbering.ceilingReached? count = some ceiling →
      IsRefused numbering expression count span
        ((ParsingReason.tooManyPredicates ceiling).fault expression span.start)
  | build {fault : Fault} : numbering.ceilingReached? count = none →
      numbering.kind.build span.text = .error fault →
      IsRefused numbering expression count span fault

theorem IsRefused.build_of_unreadable {count : Nat} {value : Text}
    (refused : IsRefused numbering expression count span (.unreadableNumeral value)) :
    numbering.ceilingReached? count = none ∧
      numbering.kind.build span.text = .error (.unreadableNumeral value) := by
  generalize same : Fault.unreadableNumeral value = fault at refused
  cases refused with
  | ceiling => exact absurd same.symm (ParsingReason.fault_ne_unreadableNumeral value)
  | build free built => exact ⟨free, built⟩

theorem token_eq_error_iff :
    token numbering expression known span = .error fault ↔
      span.lexeme = .predicate ∧ span.text ∉ known.map Prod.fst ∧
        IsRefused numbering expression known.length span fault := by
  obtain ⟨start, lexeme, text⟩ := span
  cases lexeme with
  | connective | openGroup | closeGroup => simp [token]
  | predicate =>
      have taken : token numbering expression known ⟨start, .predicate, text⟩ = .error fault ↔
          number numbering expression known start text = .error fault := by
        simp only [token, bind, Except.bind]
        cases number numbering expression known start text <;> simp [pure, Except.pure]
      rw [taken]
      by_cases inside : text ∈ known.map Prod.fst
      · rw [number_of_mem inside]
        simp [inside]
      · rw [number_of_not_mem inside]
        constructor
        · intro failed
          refine ⟨rfl, inside, ?_⟩
          split at failed
          next ceiling reached =>
            cases failed
            exact .ceiling reached
          next free =>
            cases built : numbering.kind.build text with
            | error other =>
                rw [built] at failed
                cases failed
                exact .build free built
            | ok item =>
                rw [built] at failed
                cases failed
        · rintro ⟨_, _, refused⟩
          cases refused with
          | ceiling reached =>
              rw [reached]
              rfl
          | build free failed =>
              rw [free, failed]
              rfl

/-- The numbering fails exactly with the fault of the first span that cannot be numbered. -/
theorem ofSpansFrom_eq_error_iff {spans : List Span} :
    ofSpansFrom numbering expression known spans = .error fault ↔
      ∃ before span after symbolic, spans = before ++ span :: after ∧
        ofSpansFrom numbering expression known before = .ok symbolic ∧
        token numbering expression symbolic.items span = .error fault := by
  induction spans generalizing known with
  | nil => simp [ofSpansFrom]
  | cons first rest ih =>
      constructor
      · intro failed
        simp only [ofSpansFrom, bind, Except.bind] at failed
        split at failed
        next other taken =>
          cases failed
          exact ⟨[], first, rest, ⟨[], known⟩, rfl, rfl, taken⟩
        next found taken =>
          split at failed
          next other restFailed =>
            cases failed
            obtain ⟨before, span, after, symbolic, rfl, passed, refused⟩ := ih.mp restFailed
            refine ⟨first :: before, span, after, ⟨⟨found.1, first.start⟩ :: symbolic.placed,
              symbolic.items⟩, rfl, ?_, refused⟩
            simp only [ofSpansFrom, bind, Except.bind, taken, passed]
            rfl
          next => cases failed
      · rintro ⟨before, span, after, symbolic, same, passed, refused⟩
        rw [same, ofSpansFrom_append, passed]
        simp only [ofSpansFrom, bind, Except.bind, refused]

def HasRoom (numbering : Numbering Effect Item) (known : List (Text × Item))
    (texts : List Text) : Prop :=
  ∀ ceiling, numbering.ceiling = some ceiling →
    ((known.length + (unseen (known.map Prod.fst) texts).length : Nat) : Int) ≤ ceiling

theorem exists_build_eq_error {spans : List Span}
    (room : HasRoom numbering known ((spans.map Span.mark).filterMap Mark.atom?))
    (failed : ofSpansFrom numbering expression known spans = .error fault) :
    ∃ text ∈ (spans.map Span.mark).filterMap Mark.atom?,
      numbering.kind.build text = .error fault := by
  induction spans generalizing known with
  | nil => cases failed
  | cons span rest ih =>
      rw [atoms_cons] at room ⊢
      simp only [ofSpansFrom, bind, Except.bind] at failed
      split at failed
      next other taken =>
        cases failed
        obtain ⟨isPredicate, new, refused⟩ := token_eq_error_iff.mp taken
        have isAtom : span.mark.atom? = some span.text := by
          rw [Span.mark, isPredicate]
          rfl
        rw [isAtom] at room ⊢
        cases refused with
        | ceiling reached =>
            obtain ⟨limit, least⟩ := Option.filter_eq_some_iff.mp reached
            have bound := room _ limit
            rw [unseen_option, Option.toList_some, unseen_of_not_mem new] at bound
            simp only [decide_eq_true_eq, List.length_append, List.length_cons] at least bound
            omega
        | build _ built => exact ⟨span.text, List.mem_append_left _ List.mem_cons_self, built⟩
      next found taken =>
        split at failed
        next other restFailed =>
          cases failed
          obtain ⟨new, extended, texts, _, _⟩ := token_ok taken
          have roomAfter : HasRoom numbering found.2
              ((rest.map Span.mark).filterMap Mark.atom?) := by
            intro ceiling limit
            have bound := room ceiling limit
            have count := congrArg List.length texts
            rw [unseen_option, List.length_append] at bound
            rw [List.length_map] at count
            rw [extended, List.map_append, texts, List.length_append]
            omega
          obtain ⟨text, inside, built⟩ := ih roomAfter restFailed
          exact ⟨text, List.mem_append_right _ inside, built⟩
        next => cases failed

theorem exists_ofSpansFrom {spans : List Span}
    (buildable : ∀ text ∈ (spans.map Span.mark).filterMap Mark.atom?,
      ∃ item, numbering.kind.build text = .ok item)
    (room : HasRoom numbering known ((spans.map Span.mark).filterMap Mark.atom?)) :
    ∃ symbolic, ofSpansFrom numbering expression known spans = .ok symbolic := by
  cases numbered : ofSpansFrom numbering expression known spans with
  | ok symbolic => exact ⟨symbolic, rfl⟩
  | error fault =>
      obtain ⟨text, inside, failed⟩ := exists_build_eq_error room numbered
      obtain ⟨item, built⟩ := buildable text inside
      rw [failed] at built
      cases built

theorem hasRoom_nothing_iff {texts : List Text} :
    HasRoom numbering [] texts ↔
      ∀ ceiling, numbering.ceiling = some ceiling → (texts.eraseDups.length : Int) ≤ ceiling := by
  rw [HasRoom, List.map_nil, unseen_nothing, List.length_nil, Nat.zero_add]

theorem exists_ofText {keywords : Bool} {marks : List (Mark Text)}
    (reads : Reads numbering.kind keywords expression marks)
    (buildable : ∀ text ∈ marks.filterMap Mark.atom?,
      ∃ item, numbering.kind.build text = .ok item)
    (room : ∀ ceiling, numbering.ceiling = some ceiling →
      ((marks.filterMap Mark.atom?).eraseDups.length : Int) ≤ ceiling) :
    ∃ symbolic, ofText numbering keywords expression = .ok symbolic ∧
      IsNumbering numbering.kind [] marks symbolic := by
  obtain ⟨recognised, rfl⟩ := (Reads.iff_ofText expression marks).mp reads
  obtain ⟨symbolic, numbered⟩ := exists_ofSpansFrom buildable (hasRoom_nothing_iff.mpr room)
  exact ⟨symbolic, ofText_eq_ok_iff.mpr ⟨recognised, numbered⟩,
    isNumbering_of_ofSpansFrom numbered⟩

theorem ceiling_or_unreadable (supplied : numbering.kind.IsSupplied) {spans : List Span}
    (valid : ∀ span ∈ spans, span.lexeme = .predicate → numbering.kind.isValid span.text = true)
    (failed : ofSpansFrom numbering expression known spans = .error fault) :
    (∃ ceiling before span after symbolic, spans = before ++ span :: after ∧
      ofSpansFrom numbering expression known before = .ok symbolic ∧
      numbering.ceilingReached? symbolic.items.length = some ceiling ∧
      fault = (ParsingReason.tooManyPredicates ceiling).fault expression span.start) ∨
      ∃ value, fault = .unreadableNumeral value := by
  obtain ⟨before, span, after, symbolic, rfl, passed, refused⟩ :=
    ofSpansFrom_eq_error_iff.mp failed
  obtain ⟨isPredicate, _, refused⟩ := token_eq_error_iff.mp refused
  have inside : span ∈ before ++ span :: after := List.mem_append_right _ List.mem_cons_self
  cases refused with
  | ceiling reached =>
      exact .inl ⟨_, before, span, after, symbolic, rfl, passed, reached, rfl⟩
  | build _ built => exact .inr (supplied.unreadable_of_build (valid span inside isPredicate) built)

theorem ofText_eq_error_iff {keywords : Bool} :
    ofText numbering keywords expression = .error fault ↔
      ofSpansFrom numbering expression []
          (Spans.ofText numbering.kind keywords expression).spans = .error fault ∨
        ∃ symbolic position, ofSpansFrom numbering expression []
            (Spans.ofText numbering.kind keywords expression).spans = .ok symbolic ∧
          (Spans.ofText numbering.kind keywords expression).unrecognised = some position ∧
          fault = ParsingReason.unrecognisedToken.fault expression position := by
  simp only [ofText, bind, Except.bind]
  cases numbered : ofSpansFrom numbering expression []
      (Spans.ofText numbering.kind keywords expression).spans with
  | error other => simp
  | ok symbolic =>
      cases recognised : (Spans.ofText numbering.kind keywords expression).unrecognised with
      | none => simp [pure, Except.pure]
      | some position => simp [fail, eq_comm]

end EventFilter.Symbolic
