import EventFilter.Proofs.Filter.Compilation
import EventFilter.Proofs.Symbolic.Magnitude

/-!
Filters that are one predicate.

Whether a predicate is tested directly or compiled as a formula of one token does not show: both
give the same answer or fault. Only a predicate that opens with a keyword cannot be compiled.
-/

namespace EventFilter

namespace Symbolic

theorem ofText_of_isStuck {keywords : Bool} {expression : Text}
    (stuck : Spans.IsStuck keywords expression) (ceiling : Option Int) :
    ∃ position, ofText ⟨.standard, ceiling⟩ keywords expression =
      .error (.parsing ⟨.unrecognisedToken, some expression, some position⟩) := by
  obtain ⟨stopped, operators⟩ := stuck 0
  obtain ⟨position, recognised⟩ := Option.isSome_iff_exists.mp stopped
  cases numbered : ofSpansFrom ⟨.standard, ceiling⟩ expression []
      (Spans.ofText .standard keywords expression).spans with
  | error fault =>
      obtain ⟨before, span, after, _, same, _, refused⟩ := ofSpansFrom_eq_error_iff.mp numbered
      have inside : span ∈ (Spans.ofText .standard keywords expression).spans := by
        rw [same]
        exact List.mem_append_right before List.mem_cons_self
      exact absurd (token_eq_error_iff.mp refused).1 (operators span inside)
  | ok symbolic =>
      refine ⟨position, ofText_eq_error_iff.mpr (.inr ⟨symbolic, position, numbered, recognised,
        ?_⟩)⟩
      exact (fault_of_unrecognised PredicateKind.isSound_standard recognised).symm

end Symbolic

namespace Filter

variable {text : Text} {predicate : Predicate} {settings : Settings}

theorem ofText_single (built : Predicate.build text = .ok predicate)
    (plain : ¬(settings.keywords = true ∧ Lexeme.OpensWithKeyword text))
    (room : ∀ ceiling, settings.ceiling = some ceiling → 1 ≤ ceiling) :
    Symbolic.ofText ⟨.standard, settings.ceiling⟩ settings.keywords text =
      .ok ⟨[⟨.symbol 0, 0⟩], [(text, predicate)]⟩ := by
  have spans := Spans.ofText_of_isValid (Predicate.isValid_of_build built) (not_and.mp plain)
  have free : (⟨.standard, settings.ceiling⟩ : Symbolic.Numbering _ _).ceilingReached? 0 =
      none := by
    rw [Symbolic.Numbering.ceilingReached?, Option.filter_eq_none_iff]
    intro ceiling found
    have positive := room ceiling found
    simp only [decide_eq_true_eq]
    omega
  have item : PredicateKind.standard.build text = .ok predicate := built
  rw [Symbolic.ofText, spans]
  simp [Symbolic.ofSpansFrom, Symbolic.token, Symbolic.number, free, item, bind, Except.bind,
    pure, Except.pure]

theorem build_single (built : Predicate.build text = .ok predicate)
    (plain : ¬(settings.keywords = true ∧ Lexeme.OpensWithKeyword text))
    (room : ∀ ceiling, settings.ceiling = some ceiling → 1 ≤ ceiling) :
    build .standard settings text = .ok ⟨text, if isSimple .standard text then .single predicate
      else .compound [(text, predicate)] [.symbol 0]⟩ := by
  obtain ⟨first, rest, same, _⟩ := Lexeme.startsName_of_isValid (Predicate.isValid_of_build built)
  refine build_eq_ok_iff.mpr ⟨same ▸ List.cons_ne_nil first rest, rfl, ?_⟩
  cases simple : isSimple .standard text with
  | true => exact compile_simple simple built
  | false =>
      let tree : ParseTree Int .loose := .ofConjunct (.ofNegand (.atom 0))
      have derived : tree.tokens = [.symbol 0] := rfl
      exact compile_compound simple (ofText_single built plain room) derived

theorem evaluate_single (properties : PropertyMap) (eventName : Value) :
    evaluate .standard [(text, predicate)] [.symbol 0] properties eventName =
      predicate.testProperties properties eventName := by
  have tested : PredicateKind.standard.testProperties predicate properties eventName =
      predicate.testProperties properties eventName := rfl
  rw [evaluate, List.mapM_cons, List.mapM_nil, tested]
  cases predicate.testProperties properties eventName with
  | error fault => rfl
  | ok answer => rfl

/-- A predicate is read as one token, unless it opens with a keyword, and then it makes no
difference whether it is compiled as a formula or tested directly. One that opens with a keyword
is not recognised as a token. -/
theorem single_eq_compound (built : Predicate.build text = .ok predicate) (settings : Settings) :
    Predicate.isValid text = true ∧
    (¬(settings.keywords = true ∧ Lexeme.OpensWithKeyword text) →
      (∀ ceiling, settings.ceiling = some ceiling → 1 ≤ ceiling) →
      Symbolic.ofText ⟨.standard, settings.ceiling⟩ settings.keywords text =
          .ok ⟨[⟨.symbol 0, 0⟩], [(text, predicate)]⟩ ∧
        Postorder.ofPlaced text [⟨.symbol 0, 0⟩] = .ok [.symbol 0] ∧
        build .standard settings text = .ok ⟨text, if isSimple .standard text
          then .single predicate else .compound [(text, predicate)] [.symbol 0]⟩ ∧
        ∀ form ∈ [.single predicate, .compound [(text, predicate)] [.symbol 0]],
          (∀ (properties : PropertyMap) (eventName : Value),
            (Filter.mk text form).testProperties .standard properties eventName =
              predicate.testProperties properties eventName) ∧
          ∀ event : Event,
            (Filter.mk text form).testEvent .standard event = predicate.testEvent event) ∧
    (settings.keywords = true ∧ Lexeme.OpensWithKeyword text →
      ∃ position, Symbolic.ofText ⟨.standard, settings.ceiling⟩ settings.keywords text =
        .error (.parsing ⟨.unrecognisedToken, some text, some position⟩)) := by
  have valid := Predicate.isValid_of_build built
  refine ⟨valid, ?_, ?_⟩
  · intro plain room
    refine ⟨ofText_single built plain room, rfl, build_single built plain room, ?_⟩
    intro form inside
    rcases List.mem_cons.mp inside with rfl | second
    · exact ⟨fun _ _ => rfl, fun _ => rfl⟩
    · obtain rfl := List.mem_singleton.mp second
      refine ⟨fun properties eventName => evaluate_single properties eventName, fun event => ?_⟩
      exact evaluate_single event.properties event.name
  · rintro ⟨keywords, opens⟩
    rw [keywords]
    have stuck := Spans.isStuck_of_opensWithKeyword valid opens
    exact Symbolic.ofText_of_isStuck stuck settings.ceiling

theorem single_eq_compound_quoted :
    (∃ predicate, Predicate.build "A==\"(&&\"".toList = .ok predicate ∧
      isSimple .standard "A==\"(&&\"".toList = false ∧
      ¬Lexeme.OpensWithKeyword "A==\"(&&\"".toList ∧
      build .standard { ceiling := some 1 } "A==\"(&&\"".toList =
        .ok ⟨"A==\"(&&\"".toList, .compound [("A==\"(&&\"".toList, predicate)] [.symbol 0]⟩ ∧
      predicate.testProperties [(.text ['A'], .text ['(', '&', '&'])] .null = .ok true ∧
      evaluate .standard [("A==\"(&&\"".toList, predicate)] [.symbol 0]
        [(.text ['A'], .text ['(', '&', '&'])] .null = .ok true) ∧
    -- A predicate on the property `NOT`, but two connectives and `=x` as tokens.
    ∃ predicate, Predicate.build "NOT!=x".toList = .ok predicate ∧
      Lexeme.OpensWithKeyword "NOT!=x".toList ∧
      ∃ position, Symbolic.ofText ⟨.standard, none⟩ true "NOT!=x".toList =
        .error (.parsing ⟨.unrecognisedToken, some "NOT!=x".toList, some position⟩) := by
  constructor
  · obtain ⟨predicate, built, passed⟩ : ∃ predicate,
        Predicate.build "A==\"(&&\"".toList = .ok predicate ∧
          predicate.testProperties [(.text ['A'], .text ['(', '&', '&'])] .null = .ok true :=
      ⟨_, rfl, rfl⟩
    have complex : isSimple .standard "A==\"(&&\"".toList = false := by decide
    have plain : ¬Lexeme.OpensWithKeyword "A==\"(&&\"".toList := Lexeme.not_opensWithKeyword rfl
    obtain ⟨_, _, compiled, agrees⟩ := (single_eq_compound built { ceiling := some 1 }).2.1
      (fun opens => plain opens.2) (by rintro _ ⟨⟩; decide)
    rw [complex, if_neg Bool.false_ne_true] at compiled
    have same := (agrees _ (List.mem_cons_of_mem _ List.mem_cons_self)).1
    exact ⟨predicate, built, complex, plain, compiled, passed, (same _ _).trans passed⟩
  · have built : Predicate.build "NOT!=x".toList =
        .ok ⟨"NOT!=x".toList, ⟨"NOT".toList, .notEqual, ['x']⟩, none⟩ := rfl
    have opens : Lexeme.OpensWithKeyword "NOT!=x".toList :=
      ⟨.not, "NOT".toList, "=x".toList, '!', rfl, rfl, .inr rfl⟩
    exact ⟨_, built, opens, (single_eq_compound built {}).2.2 ⟨rfl, opens⟩⟩

end Filter

end EventFilter
