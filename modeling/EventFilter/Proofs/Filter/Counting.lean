import EventFilter.Proofs.Filter.Evaluation

/-!
Counted tests of predicates.

A filter over markers tests each of its distinct markers once per test, whatever the others answer.
Its answers do not depend on what was counted before, so each test of a sequence answers as the
first test of a new filter does.
-/

namespace EventFilter

namespace Marker

variable {First Second : Type}

/-- A computation that has one result and tests markers of these texts, whatever was counted
before. -/
def Counts (action : Counted First) (result : First) (texts : List Text) : Prop :=
  ∀ calls, action.run calls = .ok (result, fun text => calls text + texts.count text)

theorem counts_pure (result : First) : Counts (pure result) result [] :=
  fun _ => rfl

theorem Counts.bind {action : Counted First} {next : First → Counted Second} {result : First}
    {final : Second} {texts more : List Text} (counts : Counts action result texts)
    (countsNext : Counts (next result) final more) :
    Counts (action >>= next) final (texts ++ more) := by
  intro calls
  have ran := countsNext fun text => calls text + texts.count text
  rw [StateT.run_bind, counts calls]
  refine ran.trans ?_
  simp only [List.count_append, Nat.add_assoc]

theorem counts_mapM {Element : Type} {test : Element → Counted First} {answer : Element → First}
    {texts : Element → List Text} (each : ∀ element, Counts (test element) (answer element)
      (texts element)) (elements : List Element) :
    Counts (elements.mapM test) (elements.map answer) (elements.flatMap texts) := by
  induction elements with
  | nil => exact counts_pure []
  | cons first rest ih =>
      have rests : Counts (rest.mapM test >>= fun results => pure (answer first :: results))
          (answer first :: rest.map answer) (rest.flatMap texts ++ []) :=
        ih.bind (counts_pure _)
      rw [List.append_nil] at rests
      rw [List.mapM_cons, List.map_cons, List.flatMap_cons]
      exact (each first).bind rests

theorem counts_testProperties (marker : Marker) (properties : PropertyMap) (eventName : Value) :
    Counts (marker.testProperties properties eventName) (marker.holds properties)
      [marker.text] := by
  intro calls
  refine congrArg (fun after => Except.ok (marker.holds properties, after)) (funext fun text => ?_)
  rw [countCall, List.count_singleton]
  by_cases same : text = marker.text
  · simp [same]
  · simp [same, Ne.symm same]

end Marker

namespace Filter

variable {settings : Settings} {expression source : Text} {filter : Filter Marker}
  {items : List (Text × Marker)} {tokens : List Token}

theorem counts_evaluate
    (built : build .markers settings expression = .ok ⟨source, .compound items tokens⟩)
    (properties : PropertyMap) (eventName : Value) :
    ∃ answer, Marker.Counts (evaluate .markers items tokens properties eventName) answer
      (items.map fun item => item.2.text) := by
  obtain ⟨formula, rfl, within⟩ := exists_formula_of_build built
  have tested := Marker.counts_mapM
    (fun item : Text × Marker => item.2.counts_testProperties properties eventName) items
  rw [evaluate_postorder within, ← List.append_nil (items.map _)]
  rw [← List.map_eq_flatMap] at tested
  exact ⟨_, tested.bind (Marker.counts_pure _)⟩

theorem counts_test (built : build .markers settings expression = .ok filter) (trial : Trial) :
    ∃ answer, Marker.Counts (filter.test .markers trial) answer
      (filter.items.map Marker.text) := by
  obtain ⟨source, form⟩ := filter
  cases form with
  | single marker =>
      cases trial with
      | event event => exact ⟨_, marker.counts_testProperties event.payload event.name⟩
      | properties properties eventName =>
          exact ⟨_, marker.counts_testProperties properties eventName⟩
  | compound items tokens =>
      have sameTexts : (items.map Prod.snd).map Marker.text = items.map fun item => item.2.text :=
        List.map_map
      rw [Filter.items, sameTexts]
      cases trial with
      | event event => exact counts_evaluate built event.properties event.name
      | properties properties eventName => exact counts_evaluate built properties eventName

theorem counts_attempt {texts : List Text} {trial : Trial} {answer : Bool}
    (counts : Marker.Counts (filter.test .markers trial) answer texts) :
    Marker.Counts (filter.attempt .markers trial) (.ok answer) texts := by
  intro calls
  have caught : (filter.attempt .markers trial).run calls =
      tryCatchThe Fault ((Except.ok <$> filter.test .markers trial).run calls)
        fun fault => (pure (.error fault) : Marker.Counted (Except Fault Bool)).run calls := rfl
  rw [caught, StateT.run_map, counts calls]
  rfl

theorem counts_outcomes (built : build .markers settings expression = .ok filter)
    (trials : List Trial) :
    ∃ answer : Trial → Bool,
      (∀ trial, Marker.Counts (filter.test .markers trial) (answer trial)
        (filter.items.map Marker.text)) ∧
      Marker.Counts (filter.outcomes .markers trials)
        (trials.map fun trial => .ok (answer trial))
        (trials.flatMap fun _ => filter.items.map Marker.text) := by
  choose answer counts using counts_test built
  exact ⟨answer, counts,
    Marker.counts_mapM (fun trial => counts_attempt (counts trial)) trials⟩

theorem texts_of_build (built : build .markers settings expression = .ok filter) :
    filter.items.map Marker.text =
      if isSimple .markers expression then [expression]
      else (Spans.predicates
        (Spans.ofText .markers settings.keywords expression).spans).eraseDups := by
  obtain ⟨_, _, compiled⟩ := build_eq_ok_iff.mp built
  cases simple : isSimple .markers expression with
  | true =>
      rw [compile, if_pos simple] at compiled
      obtain ⟨source, form⟩ := filter
      cases compiled
      rfl
  | false =>
      obtain ⟨symbolic, output, numbered, _, same⟩ := exists_of_compile_compound simple compiled
      obtain ⟨_, found⟩ := Symbolic.ofText_eq_ok_iff.mp numbered
      have texts := Symbolic.texts_of_ofSpansFrom found
      have isNumbering := Symbolic.isNumbering_of_ofSpansFrom found
      have named : ∀ entry ∈ symbolic.items, entry.2.text = entry.1 := by
        intro entry inside
        have item : Except.ok ⟨entry.1⟩ = Except.ok entry.2 := isNumbering.build entry inside
        rw [← Except.ok.inj item]
      rw [Filter.items, same, if_neg Bool.false_ne_true, ← texts, List.map_map]
      exact List.map_congr_left named

/-- Every test of a filter tests each of its distinct predicates once, and answers as it does when
it is the only test of a new filter. -/
theorem outcomes_counted (built : build .markers settings expression = .ok filter) :
    (filter.items.map Marker.text).Nodup ∧
    filter.items.map Marker.text =
      (if isSimple .markers expression then [expression]
      else (Spans.predicates
        (Spans.ofText .markers settings.keywords expression).spans).eraseDups) ∧
    ∀ (trials : List Trial) (calls : Marker.Calls), ∃ results after,
      (filter.outcomes .markers trials).run calls = .ok (results, after) ∧
      (∀ text ∈ filter.items.map Marker.text, after text = calls text + trials.length) ∧
      (∀ text ∉ filter.items.map Marker.text, after text = calls text) ∧
      List.Forall₂ (fun trial result => ∃ answer alone, result = .ok answer ∧
        (filter.test .markers trial).run (fun _ => 0) = .ok (answer, alone)) trials results := by
  have texts := texts_of_build built
  have distinct : (filter.items.map Marker.text).Nodup := by
    rw [texts]
    split
    · exact List.nodup_singleton expression
    · exact nodup_eraseDups _
  refine ⟨distinct, texts, fun trials calls => ?_⟩
  obtain ⟨answer, counts, counted⟩ := counts_outcomes built trials
  have total (text : Text) : (trials.flatMap fun _ => filter.items.map Marker.text).count text =
      trials.length * (filter.items.map Marker.text).count text := by
    simp [List.count_flatMap, Function.comp_def]
  refine ⟨_, _, counted calls, fun text inside => ?_, fun text outside => ?_, ?_⟩
  · rw [total, List.count_eq_one_of_mem distinct inside, Nat.mul_one]
  · rw [total, List.count_eq_zero_of_not_mem outside, Nat.mul_zero, Nat.add_zero]
  · rw [List.forall₂_map_right_iff, List.forall₂_same]
    exact fun trial _ => ⟨answer trial, _, rfl, counts trial _⟩

theorem outcomes_counted_twice_written :
    ∃ filter, build .markers {} "a && b || a".toList = .ok filter ∧
      filter.items.map Marker.text = [['a'], ['b']] ∧
      ∃ results after, (filter.outcomes .markers
          [.properties [(.text ['a'], .text "yes".toList)] .null, .properties [] .null]).run
            (fun _ => 0) = .ok (results, after) ∧
        after ['a'] = 2 ∧ after ['b'] = 2 ∧ after ['c'] = 0 := by
  have spans : Spans.ofText .markers true "a && b || a".toList =
      ⟨[⟨0, .predicate, ['a']⟩, ⟨2, .connective .and, ['&', '&']⟩, ⟨5, .predicate, ['b']⟩,
        ⟨7, .connective .or, ['|', '|']⟩, ⟨10, .predicate, ['a']⟩], none⟩ := by
    decide +kernel
  have complex : isSimple .markers "a && b || a".toList = false := by decide +kernel
  obtain ⟨symbolic, numbered, tokens, items⟩ : ∃ symbolic,
      Symbolic.ofText ⟨.markers, none⟩ true "a && b || a".toList = .ok symbolic ∧
        symbolic.tokens =
          [.symbol 0, .connective .and, .symbol 1, .connective .or, .symbol 0] ∧
        symbolic.items = [(['a'], ⟨['a']⟩), (['b'], ⟨['b']⟩)] := by
    rw [Symbolic.ofText, spans]
    exact ⟨_, rfl, rfl, rfl⟩
  let tree : ParseTree Int .loose :=
    .or (.ofConjunct (.and (.ofNegand (.atom 0)) (.atom 1))) (.ofNegand (.atom 0))
  have derived : tree.tokens = symbolic.tokens := tokens.symm
  have built : build .markers {} "a && b || a".toList =
      .ok ⟨"a && b || a".toList, .compound symbolic.items tree.formula.postorder⟩ :=
    build_eq_ok_iff.mpr ⟨List.cons_ne_nil _ _, rfl, compile_compound complex numbered derived⟩
  rw [items] at built
  obtain ⟨_, _, runs⟩ := outcomes_counted built
  obtain ⟨results, after, ran, counted, others, _⟩ := runs
    [.properties [(.text ['a'], .text "yes".toList)] .null, .properties [] .null] fun _ => 0
  exact ⟨_, built, rfl, results, after, ran, counted ['a'] (by decide), counted ['b'] (by decide),
    others ['c'] (by decide)⟩

end Filter

end EventFilter
