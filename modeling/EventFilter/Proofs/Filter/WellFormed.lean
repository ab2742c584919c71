import EventFilter.Proofs.Filter.Counting

/-!
Tests of a filter never find its token list malformed.

A test fails only where a predicate does, and no predicate raises a fault of evaluation. Markers
raise no fault at all.
-/

namespace EventFilter

/-- An outcome that is not the fault of a malformed token list. Other faults may occur. -/
def IsWellFormed {Result : Type} (outcome : Except Fault Result) : Prop :=
  ∀ fault, outcome ≠ .error (.evaluation fault)

namespace IsWellFormed

variable {First Second : Type}

theorem ok (result : First) : IsWellFormed (.ok result) := by
  rintro _ ⟨⟩

theorem bind {first : Except Fault First} {next : First → Except Fault Second}
    (wellFormed : IsWellFormed first) (wellFormedNext : ∀ value, IsWellFormed (next value)) :
    IsWellFormed (first >>= next) := by
  cases first with
  | error fault =>
      rintro other ⟨⟩
      exact wellFormed other rfl
  | ok value => exact wellFormedNext value

theorem mapM {test : First → Except Fault Second} (wellFormed : ∀ value, IsWellFormed (test value))
    (values : List First) : IsWellFormed (values.mapM test) := by
  induction values with
  | nil => exact ok []
  | cons first rest ih =>
      rw [List.mapM_cons]
      exact (wellFormed first).bind fun _ => ih.bind fun results => ok _

end IsWellFormed

namespace Predicate

theorem isWellFormed_lookupFolded (folded : Text) (properties : PropertyMap) :
    IsWellFormed (lookupFolded folded properties) := by
  fun_induction lookupFolded folded properties with
  | case1 => exact .ok Value.null
  | case2 name value rest same => exact .ok value
  | case3 name value rest distinct ih => exact ih
  | case4 => rintro _ ⟨⟩

theorem isWellFormed_subject (predicate : Predicate) (properties : PropertyMap)
    (eventName : Value) : IsWellFormed (predicate.subject properties eventName) := by
  unfold subject lookup
  split
  · exact .ok eventName
  · split
    · exact .ok _
    · exact isWellFormed_lookupFolded _ properties

theorem isWellFormed_quantity? (value : Value) : IsWellFormed value.quantity? := by
  intro fault
  fun_cases Value.quantity? value <;> rintro ⟨⟩

theorem isWellFormed_compareAsText (predicate : Predicate) (actual : Value) :
    IsWellFormed (predicate.compareAsText actual) := by
  unfold compareAsText
  split
  · exact .ok _
  · rintro _ ⟨⟩

theorem isWellFormed_order (predicate : Predicate) (actual : Value) :
    IsWellFormed (predicate.order actual) := by
  unfold order
  split
  · exact isWellFormed_compareAsText predicate actual
  · refine (isWellFormed_quantity? actual).bind fun quantity => ?_
    cases quantity with
    | none => exact isWellFormed_compareAsText predicate actual
    | some => exact .ok _

theorem isWellFormed_testProperties (predicate : Predicate) (properties : PropertyMap)
    (eventName : Value) : IsWellFormed (predicate.testProperties properties eventName) := by
  refine (isWellFormed_subject predicate properties eventName).bind fun actual => ?_
  split
  · exact .ok false
  · exact (isWellFormed_order predicate _).bind fun ordering => .ok _

end Predicate

namespace Filter

section Standard

variable {settings : Settings} {expression : Text} {filter : Filter Predicate}

theorem isWellFormed_evaluate {source : Text} {items : List (Text × Predicate)}
    {tokens : List Token}
    (built : build .standard settings expression = .ok ⟨source, .compound items tokens⟩)
    (properties : PropertyMap) (eventName : Value) :
    IsWellFormed (evaluate .standard items tokens properties eventName) := by
  obtain ⟨formula, rfl, within⟩ := exists_formula_of_build built
  rw [evaluate_postorder within]
  have tested : IsWellFormed (items.mapM fun item =>
      PredicateKind.standard.testProperties item.2 properties eventName) :=
    IsWellFormed.mapM (fun item => item.2.isWellFormed_testProperties properties eventName) items
  exact tested.bind fun answers => .ok _

theorem isWellFormed_test (built : build .standard settings expression = .ok filter)
    (trial : Trial) : IsWellFormed (filter.test .standard trial) := by
  obtain ⟨source, form⟩ := filter
  cases form with
  | single predicate =>
      cases trial with
      | event event => exact predicate.isWellFormed_testProperties event.properties event.name
      | properties properties eventName =>
          exact predicate.isWellFormed_testProperties properties eventName
  | compound items tokens =>
      cases trial with
      | event event => exact isWellFormed_evaluate built event.properties event.name
      | properties properties eventName => exact isWellFormed_evaluate built properties eventName

theorem outcomes_standard (filter : Filter Predicate) (trials : List Trial) :
    filter.outcomes .standard trials = .ok (trials.map (filter.test .standard)) := by
  apply mapM_eq_ok
  intro trial _
  rw [attempt]
  cases filter.test .standard trial with
  | error fault => rfl
  | ok answer => rfl

end Standard

/-- What the conversion to post-order puts out passes its check, and the symbols of a compound
filter are numbers of its items. So no sequence of tests finds a token list malformed, whatever the
predicates are tested on. -/
theorem outcomes_isWellFormed :
    (∀ (expression : Text) (tokens : List Token) (positions : List Nat) (output : List Token),
      Postorder.ofPlaced expression (Postorder.place tokens positions) = .ok output →
        Postorder.check output = .ok ()) ∧
    (∀ {Effect : Type → Type} {Item : Type} (kind : PredicateKind Effect Item)
      (settings : Settings) (expression source : Text) (items : List (Text × Item))
      (tokens : List Token),
      build kind settings expression = .ok ⟨source, .compound items tokens⟩ →
        ∀ index : Int, .symbol index ∈ tokens → 0 ≤ index ∧ index < items.length) ∧
    (∀ kind ∈ [PredicateKind.standard, .searched], ∀ (settings : Settings) (expression : Text)
      (filter : Filter Predicate) (trials : List Trial),
      build kind settings expression = .ok filter →
        ∃ results, filter.outcomes kind trials = .ok results ∧
          results.length = trials.length ∧ ∀ result ∈ results, IsWellFormed result) ∧
    ∀ (settings : Settings) (expression : Text) (filter : Filter Marker) (trials : List Trial)
      (calls : Marker.Calls), build .markers settings expression = .ok filter →
        ∃ results after, (filter.outcomes .markers trials).run calls = .ok (results, after) ∧
          results.length = trials.length ∧ ∀ result ∈ results, IsWellFormed result := by
  refine ⟨?_, ?_, ?_, ?_⟩
  · intro expression tokens positions output converted
    exact Postorder.check_of_ofPlaced converted
  · intro Effect Item kind settings expression source items tokens built index inside
    obtain ⟨formula, rfl, within⟩ := exists_formula_of_build built
    apply within index
    rw [← Postorder.filterMap_symbol?_postorder]
    exact List.mem_filterMap.mpr ⟨.symbol index, inside, rfl⟩
  · intro kind supplied settings expression filter trials built
    have same : kind = .standard := by
      rw [← PredicateKind.standard_eq_searched] at supplied
      simpa using supplied
    subst same
    refine ⟨_, outcomes_standard filter trials, by rw [List.length_map], ?_⟩
    intro result inside
    obtain ⟨trial, _, rfl⟩ := List.mem_map.mp inside
    exact isWellFormed_test built trial
  · intro settings expression filter trials calls built
    obtain ⟨answer, _, counted⟩ := counts_outcomes built trials
    refine ⟨_, _, counted calls, by rw [List.length_map], ?_⟩
    intro result inside
    obtain ⟨trial, _, rfl⟩ := List.mem_map.mp inside
    exact .ok (answer trial)

theorem outcomes_isWellFormed_after_fault :
    ∃ filter, build .standard {} "A==x&&!B==y".toList = .ok filter ∧
      ∃ results, filter.outcomes .standard
          [.properties [(.null, .null)] .null,
            .properties [(.text ['A'], .text ['x']), (.text ['B'], .text ['z'])] .null] =
          .ok results ∧
        results = [.error (.keyWithoutCase .null), .ok true] ∧
        ∀ result ∈ results, IsWellFormed result := by
  have spans : Spans.ofText .standard true "A==x&&!B==y".toList =
      ⟨[⟨0, .predicate, "A==x".toList⟩, ⟨4, .connective .and, ['&', '&']⟩,
        ⟨6, .connective .not, ['!']⟩, ⟨7, .predicate, "B==y".toList⟩], none⟩ := by
    decide +kernel
  have complex : isSimple .standard "A==x&&!B==y".toList = false := by decide +kernel
  obtain ⟨symbolic, numbered, tokens, items⟩ : ∃ symbolic,
      Symbolic.ofText ⟨.standard, none⟩ true "A==x&&!B==y".toList = .ok symbolic ∧
        symbolic.tokens = [.symbol 0, .connective .and, .connective .not, .symbol 1] ∧
        symbolic.items = [("A==x".toList, ⟨"A==x".toList, ⟨['A'], .equal, ['x']⟩, none⟩),
          ("B==y".toList, ⟨"B==y".toList, ⟨['B'], .equal, ['y']⟩, none⟩)] := by
    rw [Symbolic.ofText, spans]
    exact ⟨_, rfl, rfl, rfl⟩
  let tree : ParseTree Int .loose :=
    .ofConjunct (.and (.ofNegand (.atom 0)) (.not (.atom 1)))
  have derived : tree.tokens = symbolic.tokens := tokens.symm
  have built : build .standard {} "A==x&&!B==y".toList =
      .ok ⟨"A==x&&!B==y".toList, .compound symbolic.items tree.formula.postorder⟩ :=
    build_eq_ok_iff.mpr
      ⟨List.cons_ne_nil _ _, rfl, compile_compound complex numbered derived⟩
  rw [items] at built
  obtain ⟨results, ran, _, wellFormed⟩ := outcomes_isWellFormed.2.2.1 .standard
    List.mem_cons_self {} _ _ [.properties [(.null, .null)] .null,
      .properties [(.text ['A'], .text ['x']), (.text ['B'], .text ['z'])] .null] built
  refine ⟨_, built, results, ran, ?_, wellFormed⟩
  rw [outcomes_standard] at ran
  cases ran
  rfl

end Filter

end EventFilter
