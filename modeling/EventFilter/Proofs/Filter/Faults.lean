import EventFilter.Proofs.Filter.Compilation
import EventFilter.Proofs.Postorder.Faults
import EventFilter.Proofs.Symbolic.Magnitude

/-!
How the construction of a filter fails.

A fault lies at a place in the expression, or a predicate that is reached has an unreadable value.
-/

namespace EventFilter

variable {Effect : Type → Type} {Item : Type} {kind : PredicateKind Effect Item}

namespace Symbolic

variable {keywords : Bool} {expression : Text} {ceiling : Option Int}

theorem liesIn_or_unreadable (supplied : kind.IsSupplied)
    (above : ∀ limit, ceiling = some limit → -(Text.digitBound : Int) < limit)
    {fault : Fault} (failed : ofText ⟨kind, ceiling⟩ keywords expression = .error fault) :
    fault.LiesIn expression ∨ ∃ value, fault = .unreadableNumeral value := by
  rcases ofText_eq_error_iff.mp failed with numbered | ⟨_, position, _, stopped, rfl⟩
  · have valid : ∀ span ∈ (Spans.ofText kind keywords expression).spans,
        span.lexeme = .predicate → kind.isValid span.text = true :=
      fun span inside => Spans.isValid_of_mem supplied.isSound inside
    rcases ceiling_or_unreadable supplied valid numbered with
      ⟨limit, before, span, after, symbolic, split, passed, reached, rfl⟩ | unreadable
    · obtain ⟨isLimit, least⟩ := Option.filter_eq_some_iff.mp reached
      have inside : span ∈ (Spans.ofText kind keywords expression).spans := by
        rw [split]
        exact List.mem_append_right before List.mem_cons_self
      refine .inl (.of_writable (Spans.start_lt_of_mem supplied.isSound span inside) nofun
        (List.forall_mem_singleton.mpr ?_))
      exact isWritableIn_of_reached (of_decide_eq_true least)
        (length_items_le supplied.isSound split passed) (above limit isLimit)
    · exact .inr unreadable
  · exact .inl (.of_writable (Spans.unrecognised_lt supplied.isSound stopped) nofun
      (List.forall_mem_nil _))

theorem readFrom_of_ofText (sound : kind.IsSound) {symbolic : Symbolic Item}
    (found : ofText ⟨kind, ceiling⟩ keywords expression = .ok symbolic) :
    Postorder.ReadFrom expression symbolic.placed := by
  obtain ⟨_, numbered⟩ := ofText_eq_ok_iff.mp found
  have positions := positions_of_ofSpansFrom numbered
  have tokens := (isNumbering_of_ofSpansFrom numbered).tokens
  intro entry inside
  refine ⟨?_, ?_, isWritableIn_symbol sound found entry.token (List.mem_map_of_mem inside)⟩
  · have member : entry.position ∈ symbolic.positions := List.mem_map_of_mem inside
    rw [positions] at member
    obtain ⟨span, among, same⟩ := List.mem_map.mp member
    exact same ▸ Spans.start_lt_of_mem sound span among
  · intro text other
    have member : entry.token ∈ symbolic.tokens := List.mem_map_of_mem inside
    rw [tokens, other] at member
    obtain ⟨mark, _, same⟩ := List.mem_map.mp member
    cases mark <;> cases same

end Symbolic

namespace Filter

variable {settings : Settings} {expression : Text} {fault : Fault}

theorem compile_eq_error_iff :
    compile kind settings expression = .error fault ↔
      (isSimple kind expression = true ∧ kind.build expression = .error fault) ∨
      (isSimple kind expression = false ∧
        (Symbolic.ofText ⟨kind, settings.ceiling⟩ settings.keywords expression = .error fault ∨
          ∃ symbolic, Symbolic.ofText ⟨kind, settings.ceiling⟩ settings.keywords expression =
              .ok symbolic ∧
            Postorder.ofPlaced expression symbolic.placed = .error fault)) := by
  rw [compile]
  cases isSimple kind expression with
  | true =>
      rw [if_pos rfl]
      cases kind.build expression <;> simp [bind, Except.bind, pure, Except.pure]
  | false =>
      rw [if_neg Bool.false_ne_true]
      cases Symbolic.ofText ⟨kind, settings.ceiling⟩ settings.keywords expression with
      | error other => simp [bind, Except.bind]
      | ok symbolic =>
          cases converted : Postorder.ofPlaced expression symbolic.placed with
          | error other => simp [bind, Except.bind, converted]
          | ok output =>
              simp [bind, Except.bind, converted, Postorder.check_of_ofPlaced converted,
                Except.mapError, pure, Except.pure]

theorem build_eq_error_iff (present : expression ≠ []) :
    build kind settings expression = .error fault ↔
      compile kind settings expression = .error fault := by
  obtain ⟨first, rest, rfl⟩ := List.exists_cons_of_ne_nil present
  rw [build]
  cases compile kind settings (first :: rest) <;> simp [bind, Except.bind, pure, Except.pure]

theorem fault_cases (supplied : kind.IsSupplied)
    (above : ∀ ceiling, settings.ceiling = some ceiling →
      -(Text.digitBound : Int) < ceiling)
    (failed : build kind settings expression = .error fault) :
    (expression = [] ∧ fault = .parsing { reason := .emptyExpression, expression := some [] }) ∨
      (expression ≠ [] ∧ fault.LiesIn expression) ∨
      ∃ value, fault = .unreadableNumeral value := by
  cases expression with
  | nil =>
      cases failed
      exact .inl ⟨rfl, rfl⟩
  | cons first rest =>
      have present : first :: rest ≠ [] := List.cons_ne_nil first rest
      right
      rcases compile_eq_error_iff.mp ((build_eq_error_iff present).mp failed) with
        ⟨simple, built⟩ | ⟨_, numbered | ⟨symbolic, numbered, converted⟩⟩
      · exact .inr (supplied.unreadable_of_build (isValid_of_isSimple simple) built)
      · rcases Symbolic.liesIn_or_unreadable supplied above numbered with liesIn | unreadable
        · exact .inl ⟨present, liesIn⟩
        · exact .inr unreadable
      · have readFrom := Symbolic.readFrom_of_ofText supplied.isSound numbered
        exact .inl ⟨present, Postorder.liesIn_of_ofPlaced readFrom converted⟩

/-- A predicate with an unreadable value stands in front of everything that is not recognised, and
the ceiling leaves room for it. -/
def ReachesUnreadable (settings : Settings) (expression : Text) : Prop :=
  ∃ before span after value,
    (Spans.ofText .standard settings.keywords expression).spans = before ++ span :: after ∧
      span.lexeme = .predicate ∧ Predicate.HasUnreadable span.text value ∧
      ∀ ceiling, settings.ceiling = some ceiling →
        ((Spans.predicates (before ++ [span])).eraseDups.length : Int) ≤ ceiling

theorem reachesUnreadable_of_ofText {value : Text}
    (failed : Symbolic.ofText ⟨.standard, settings.ceiling⟩ settings.keywords expression =
      .error (.unreadableNumeral value)) : ReachesUnreadable settings expression := by
  rcases Symbolic.ofText_eq_error_iff.mp failed with numbered | ⟨_, _, _, _, same⟩
  · obtain ⟨before, span, after, symbolic, same, passed, refused⟩ :=
      Symbolic.ofSpansFrom_eq_error_iff.mp numbered
    obtain ⟨isPredicate, new, refused⟩ := Symbolic.token_eq_error_iff.mp refused
    have count := Symbolic.length_of_ofSpansFrom passed
    rw [Symbolic.texts_of_ofSpansFrom passed, List.mem_eraseDups] at new
    obtain ⟨free, built⟩ := refused.build_of_unreadable
    have inside : span ∈ (Spans.ofText .standard settings.keywords expression).spans := by
      rw [same]
      exact List.mem_append_right before List.mem_cons_self
    have valid : Predicate.isValid span.text = true :=
      Spans.isValid_of_mem PredicateKind.isSound_standard inside isPredicate
    obtain ⟨_, unreadable, _⟩ := (Predicate.build_eq_error_iff valid).mp built
    refine ⟨before, span, after, _, same, isPredicate, unreadable, ?_⟩
    intro ceiling limit
    have above := Option.filter_eq_none_iff.mp free ceiling limit
    rw [Spans.predicates_concat before isPredicate, eraseDups_concat new,
      List.length_append, ← count]
    simp only [decide_eq_true_eq] at above
    simp only [List.length_cons, List.length_nil]
    omega
  · exact absurd same.symm (ParsingReason.fault_ne_unreadableNumeral value)

theorem ofText_of_reachesUnreadable (reaches : ReachesUnreadable settings expression) :
    ∃ value, Symbolic.ofText ⟨.standard, settings.ceiling⟩ settings.keywords expression =
      .error (.unreadableNumeral value) := by
  obtain ⟨before, span, after, value, same, isPredicate, unreadable, room⟩ := reaches
  have refused := (Predicate.build_eq_error_iff unreadable.1).mpr ⟨value, unreadable, rfl⟩
  have reached : span.text ∈ Spans.predicates (before ++ [span]) := by
    rw [Spans.predicates_concat before isPredicate]
    exact List.mem_append_right _ (List.mem_singleton_self _)
  cases numbered : Symbolic.ofSpansFrom ⟨.standard, settings.ceiling⟩ expression []
      (before ++ [span]) with
  | ok symbolic =>
      have isNumbering := Symbolic.isNumbering_of_ofSpansFrom numbered
      obtain ⟨item, member, named⟩ := List.mem_map.mp (isNumbering.mem_items_iff.mpr reached)
      have built : Predicate.build span.text = .ok item.2 := named ▸ isNumbering.build item member
      rw [refused] at built
      cases built
  | error fault =>
      obtain ⟨text, inside, failed⟩ := Symbolic.exists_build_eq_error
        (Symbolic.hasRoom_nothing_iff.mpr room) numbered
      obtain ⟨other, among, otherPredicate, rfl⟩ := Spans.mem_predicates_iff.mp inside
      have member : other ∈ (Spans.ofText .standard settings.keywords expression).spans := by
        rw [same, List.append_cons]
        exact List.mem_append_left after among
      have valid : Predicate.isValid other.text = true :=
        Spans.isValid_of_mem PredicateKind.isSound_standard member otherPredicate
      obtain ⟨first, _, rfl⟩ := (Predicate.build_eq_error_iff valid).mp failed
      refine ⟨first, Symbolic.ofText_eq_error_iff.mpr (.inl ?_)⟩
      have stopped : Symbolic.ofSpansFrom ⟨.standard, settings.ceiling⟩ expression []
          (before ++ [span] ++ after) = .error (.unreadableNumeral first) := by
        rw [Symbolic.ofSpansFrom_append, numbered]
        rfl
      rwa [← List.append_cons, ← same] at stopped

theorem compile_unreadable_iff :
    (∃ value, compile .standard settings expression = .error (.unreadableNumeral value)) ↔
      (isSimple .standard expression = true ∧ ∃ value, Predicate.HasUnreadable expression value) ∨
      (isSimple .standard expression = false ∧ ReachesUnreadable settings expression) := by
  constructor
  · rintro ⟨value, failed⟩
    rcases compile_eq_error_iff.mp failed with
      ⟨simple, built⟩ | ⟨complex, numbered | ⟨symbolic, numbered, converted⟩⟩
    · obtain ⟨other, unreadable, _⟩ :=
        (Predicate.build_eq_error_iff (isValid_of_isSimple simple)).mp built
      exact .inl ⟨simple, other, unreadable⟩
    · exact .inr ⟨complex, reachesUnreadable_of_ofText numbered⟩
    · have readFrom := Symbolic.readFrom_of_ofText PredicateKind.isSound_standard numbered
      cases Postorder.liesIn_of_ofPlaced readFrom converted
  · rintro (⟨simple, value, unreadable⟩ | ⟨complex, reaches⟩)
    · have built := (Predicate.build_eq_error_iff unreadable.1).mpr ⟨value, unreadable, rfl⟩
      exact ⟨value, compile_eq_error_iff.mpr (.inl ⟨simple, built⟩)⟩
    · obtain ⟨value, failed⟩ := ofText_of_reachesUnreadable reaches
      exact ⟨value, compile_eq_error_iff.mpr (.inr ⟨complex, .inl failed⟩)⟩

/-- A filter is constructed, or a fault names the whole expression and a place in it, or else a
numeral is unreadable. This last fault is that of the predicate that the filter would be, or of one
that the construction reaches. Only a ceiling so far below zero that no message can name it is left
out; settings have none below one. -/
theorem build_outcome (settings : Settings) (expression : Text) :
    ((∀ ceiling, settings.ceiling = some ceiling → -(Text.digitBound : Int) < ceiling) →
      (∃ filter, build .standard settings expression = .ok filter) ∨
      (∃ fault : ParsingFault, build .standard settings expression = .error (.parsing fault) ∧
        fault.expression = some expression ∧ (fault.position = none ↔ expression = []) ∧
        (∀ position, fault.position = some position → position ≤ expression.length) ∧
        (fault.position = some expression.length ↔ fault.reason = .missingOperandAtEnd)) ∨
      ∃ value, build .standard settings expression = .error (.unreadableNumeral value)) ∧
    ((∃ value, build .standard settings expression = .error (.unreadableNumeral value)) ↔
      (isSimple .standard expression = true ∧ ∃ value, Predicate.HasUnreadable expression value) ∨
      (isSimple .standard expression = false ∧ ReachesUnreadable settings expression)) := by
  constructor
  · intro above
    cases built : build .standard settings expression with
    | ok filter => exact .inl ⟨filter, rfl⟩
    | error fault =>
        right
        rcases fault_cases .standard above built with ⟨rfl, rfl⟩ | ⟨present, liesIn⟩ | ⟨value, rfl⟩
        · exact .inl ⟨_, rfl, rfl, by simp, by simp, by simp⟩
        · cases liesIn with
          | inside within distinct =>
              have before := Nat.ne_of_lt within
              refine .inl ⟨_, rfl, rfl, by simp [present], ?_, by simp [distinct, before]⟩
              rintro _ ⟨⟩
              exact Nat.le_of_lt within
          | atEnd => exact .inl ⟨_, rfl, rfl, by simp [present], by simp, by simp⟩
        · exact .inr ⟨value, rfl⟩
  · by_cases present : expression = []
    · subst present
      constructor
      · rintro ⟨_, ⟨⟩⟩
      · rintro (⟨⟨⟩, _⟩ | ⟨_, before, span, after, _, same, _⟩)
        have inside : span ∈ (Spans.ofText .standard settings.keywords []).spans := by
          rw [same]
          exact List.mem_append_right before List.mem_cons_self
        have within := Spans.start_lt_of_mem PredicateKind.isSound_standard span inside
        exact absurd within (Nat.not_lt_zero span.start)
    · rw [← compile_unreadable_iff]
      exact exists_congr fun value => build_eq_error_iff present

theorem build_outcome_at_end :
    (∀ ceiling : Int, some 1 = some ceiling → -(Text.digitBound : Int) < ceiling) ∧
    ∃ fault : ParsingFault,
      build .standard { ceiling := some 1 } "A==x &&".toList = .error (.parsing fault) ∧
      fault.expression = some "A==x &&".toList ∧ fault.position = some 7 ∧
      fault.reason = .missingOperandAtEnd := by
  have above : ∀ ceiling : Int, some 1 = some ceiling →
      -(Text.digitBound : Int) < ceiling := by
    rintro _ ⟨⟩
    exact Text.neg_digitBound_lt 1
  have spans : Spans.ofText .standard true "A==x &&".toList =
      ⟨[⟨0, .predicate, "A==x".toList⟩, ⟨5, .connective .and, "&&".toList⟩], none⟩ := by
    decide +kernel
  have failed : build .standard { ceiling := some 1 } "A==x &&".toList =
      .error (.parsing ⟨.missingOperandAtEnd, some "A==x &&".toList, some 7⟩) := by
    have complex : isSimple .standard "A==x &&".toList = false := by decide +kernel
    rw [build, compile, complex, Symbolic.ofText, spans]
    rfl
  refine ⟨above, ?_⟩
  rcases (build_outcome { ceiling := some 1 } "A==x &&".toList).1 above with
    ⟨filter, built⟩ | ⟨fault, raised, whole, _, _, atEnd⟩ | ⟨value, unreadable⟩
  · rw [failed] at built
    cases built
  · refine ⟨fault, raised, whole, ?_⟩
    rw [failed] at raised
    cases raised
    exact ⟨rfl, atEnd.mp rfl⟩
  · rw [failed] at unreadable
    cases unreadable

example : build .standard {} "A==\"1\x1c\"".toList =
    .error (.unreadableNumeral ['1', '\x1c']) := rfl

end Filter

end EventFilter
