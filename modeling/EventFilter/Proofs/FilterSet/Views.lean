import Mathlib.Tactic.Choose
import EventFilter.Proofs.FilterSet.Construction
import EventFilter.Proofs.FilterSet.Outcome

/-!
The two views of a filter set.

One view goes through the filters for an event, the other one through the events for a filter.
They agree as long as no test raises a fault. Where tests do, each view stops at the first fault on
its own way.
-/

namespace EventFilter

open Observable

structure PredicateKind.IsDecided {Effect : Type → Type} [Monad Effect]
    [MonadExceptOf Fault Effect] [Observable Effect] {Item : Type}
    (kind : PredicateKind Effect Item) : Prop where
  properties : ∀ (item : Item) (properties : PropertyMap) (eventName : Value),
    ∃ outcome, Gives (kind.testProperties item properties eventName) outcome
  event : ∀ (item : Item) (event : Event), ∃ outcome, Gives (kind.testEvent item event) outcome

theorem PredicateKind.isDecided_pure {Item : Type} (kind : PredicateKind (Except Fault) Item) :
    kind.IsDecided :=
  ⟨fun _ _ _ => ⟨_, rfl⟩, fun _ _ => ⟨_, rfl⟩⟩

theorem PredicateKind.isDecided_markers : PredicateKind.markers.IsDecided :=
  ⟨fun marker properties _ => ⟨.ok (marker.holds properties), fun _ => rfl⟩,
    fun marker event => ⟨.ok (marker.holds event.payload), fun _ => rfl⟩⟩

section Views

variable {Effect : Type → Type} [Monad Effect] [MonadExceptOf Fault Effect] [Observable Effect]
  {Item : Type} {kind : PredicateKind Effect Item}

theorem Filter.exists_outcome [LawfulMonad Effect] (decided : kind.IsDecided)
    (filter : Filter Item) (event : Event) :
    ∃ outcome, Gives (filter.testEvent kind event) outcome := by
  obtain ⟨source, form⟩ := filter
  cases form with
  | single item => exact decided.event item event
  | compound items tokens =>
      choose outcome gives using decided.properties
      have answers := gives_mapM
        (fun item : Text × Item => gives item.2 event.properties event.name) items
      exact ⟨_, gives_bind answers fun results _ => gives_ofExcept _⟩

/-- The views of a filter set, in terms of the outcomes of its filters on events. -/
structure FilterSet.AgreeingViews (kind : PredicateKind Effect Item) (filterSet : FilterSet Item)
    (outcome : Text → Event → Except Fault Bool) : Prop where
  test : ∀ name ∈ filterSet.names, ∃ filter, filterSet.get (.text name) = .ok filter ∧
    ∀ event, Gives (filter.testEvent kind event) (outcome name event)
  agree : ∀ {Source : Type} (event : Source → Event) (sources : List Source),
    (∀ source ∈ sources, ∀ name ∈ filterSet.names,
      ∃ answer, outcome name (event source) = .ok answer) →
    ∃ passing : Source → List Text,
      (∀ source ∈ sources,
        Gives (filterSet.matching kind (event source)) (.ok (passing source)) ∧
        (passing source).Sublist filterSet.names ∧ (passing source).Nodup) ∧
      ∀ name ∈ filterSet.names,
        Gives (filterSet.select kind (.text name) event none sources)
          (.ok ⟨sources.filter fun source => name ∈ passing source, sources.length, none⟩)
  matching_fault : ∀ (event : Event) (before : List Text) (name : Text) (fault : Fault),
    FirstFault (fun name => outcome name event) filterSet.names before name fault →
      Gives (filterSet.matching kind event) (.error fault)
  select_pass : ∀ {Source : Type} (event : Source → Event) (sources : List Source),
    ∀ name ∈ filterSet.names,
      (∀ source ∈ sources, ∃ answer, outcome name (event source) = .ok answer) →
      Gives (filterSet.select kind (.text name) event none sources)
        (.ok ⟨sources.filter fun source => isPassed (outcome name (event source)),
          sources.length, none⟩)
  /-- The events before the first fault are there, and no later event is looked at. -/
  select_fault : ∀ {Source : Type} (event : Source → Event) (sources before : List Source)
    (source : Source) (fault : Fault), ∀ name ∈ filterSet.names,
    FirstFault (fun source => outcome name (event source)) sources before source fault →
      Gives (filterSet.select kind (.text name) event none sources)
        (.ok ⟨before.filter fun source => isPassed (outcome name (event source)),
          before.length + 1, some fault⟩)
  select_unknown : ∀ {Source : Type} (event : Source → Event) (limit : Option Nat)
    (sources : List Source) (name : Text), name ∉ filterSet.names →
      filterSet.select kind (.text name) event limit sources =
        throw (.unknownFilter (.text name))

namespace FilterSet

variable {filterSet : FilterSet Item} {outcome : Text → Event → Except Fault Bool}
  {filter : Filter Item} {name : Text}

theorem exists_of_mem_names (inside : name ∈ filterSet.names) :
    ∃ filter, (name, filter) ∈ filterSet.filters := by
  obtain ⟨entry, member, rfl⟩ := List.mem_map.mp inside
  exact ⟨entry.2, member⟩

theorem get_text_of_not_mem (outside : name ∉ filterSet.names) :
    filterSet.get (.text name) = .error (.unknownFilter (.text name)) := by
  have absent : filterSet.filters.lookup name = none := by
    rw [List.lookup_eq_none_iff]
    intro entry inside
    rw [bne_iff_ne]
    rintro rfl
    exact outside (List.mem_map_of_mem inside)
  rw [get_text, absent, Option.elim_none]

theorem gives_select {Source : Type} {event : Source → Event} {limit : Option Nat}
    {sources : List Source} {selection : Selection Source}
    (found : filterSet.get (.text name) = .ok filter)
    (gives : Gives (Selection.ofList (fun source => filter.testEvent kind (event source)) limit
      sources) (.ok selection)) :
    Gives (filterSet.select kind (.text name) event limit sources) (.ok selection) := by
  rw [select, found]
  exact gives_bind_ok (gives_ofExcept (.ok filter)) gives

theorem select_unknown {Source : Type} (outside : name ∉ filterSet.names)
    (event : Source → Event) (limit : Option Nat) (sources : List Source) :
    filterSet.select kind (.text name) event limit sources =
      throw (.unknownFilter (.text name)) := by
  rw [select, get_text_of_not_mem outside]
  exact throw_bind _ _

section Tests

variable (tests : ∀ entry ∈ filterSet.filters, ∀ event,
  Gives (entry.2.testEvent kind event) (outcome entry.1 event))

include tests

theorem gives_matching {event : Event}
    (passes : ∀ name ∈ filterSet.names, ∃ answer, outcome name event = .ok answer) :
    Gives (filterSet.matching kind event)
      (.ok (filterSet.names.filter fun name => isPassed (outcome name event))) := by
  have passed := gives_filterM (fun entry inside => tests entry inside event)
    fun entry inside => passes entry.1 (List.mem_map_of_mem inside)
  rw [names, List.filter_map]
  exact gives_bind_ok passed (gives_pure _)

theorem gives_matching_fault {event : Event} {before : List Text} {fault : Fault}
    (found : FirstFault (fun name => outcome name event) filterSet.names before name fault) :
    Gives (filterSet.matching kind event) (.error fault) := by
  obtain ⟨earlier, entry, found⟩ := found.of_map
  exact gives_bind_error
    (gives_filterM_fault (fun entry inside => tests entry inside event) found)

theorem agreeingViews (distinct : filterSet.names.Nodup) :
    AgreeingViews kind filterSet outcome := by
  have test : ∀ name ∈ filterSet.names, ∃ filter, filterSet.get (.text name) = .ok filter ∧
      ∀ event, Gives (filter.testEvent kind event) (outcome name event) := by
    intro name inside
    obtain ⟨filter, member⟩ := exists_of_mem_names inside
    exact ⟨filter, get_of_mem distinct member, tests (name, filter) member⟩
  have select_pass {Source : Type} (event : Source → Event) (sources : List Source) (name : Text)
      (inside : name ∈ filterSet.names)
      (passes : ∀ source ∈ sources, ∃ answer, outcome name (event source) = .ok answer) :
      Gives (filterSet.select kind (.text name) event none sources)
        (.ok ⟨sources.filter fun source => isPassed (outcome name (event source)),
          sources.length, none⟩) := by
    obtain ⟨filter, found, gives⟩ := test name inside
    exact gives_select found (gives_ofList (fun source _ => gives (event source)) passes)
  refine ⟨test, ?_, fun _ _ _ _ found => gives_matching_fault tests found, select_pass, ?_, ?_⟩
  · intro Source event sources passes
    refine ⟨fun source =>
      filterSet.names.filter fun name => isPassed (outcome name (event source)), ?_, ?_⟩
    · intro source inside
      exact ⟨gives_matching tests (passes source inside), List.filter_sublist,
        distinct.filter _⟩
    · intro name inside
      have selected := select_pass event sources name inside
        fun source member => passes source member name inside
      simpa only [List.mem_filter, inside, true_and, Bool.decide_eq_true] using selected
  · intro Source event sources before source fault name inside firstFault
    obtain ⟨filter, found, gives⟩ := test name inside
    exact gives_select found
      (gives_ofList_fault (fun source _ => gives (event source)) firstFault)
  · intro Source event limit sources name outside
    exact select_unknown outside event limit sources

end Tests

theorem exists_agreeingViews [LawfulMonad Effect] (decided : kind.IsDecided)
    (distinct : filterSet.names.Nodup) : ∃ outcome, AgreeingViews kind filterSet outcome := by
  choose answer gives using fun filter event => Filter.exists_outcome decided filter event
  refine ⟨fun name event =>
    (filterSet.filters.lookup name).elim (.ok false) fun filter => answer filter event,
    agreeingViews ?_ distinct⟩
  intro entry inside event
  rw [get_text_eq_ok_iff.mp (get_of_mem distinct inside), Option.elim_some]
  exact gives entry.2 event

/-- The names for an event and the events for a name are two views of one relation, in the order
of the settings and in the order of the events. A test that raises a fault ends either of them,
and the views differ in which test comes first. -/
theorem matching_agrees_with_select :
    (∀ {Item : Type} (kind : PredicateKind (Except Fault) Item) (settings : Settings)
      (filterSet : FilterSet Item), (settings.filters.map Prod.fst).Nodup →
      build kind settings = .ok filterSet →
        filterSet.names = settings.filters.map Prod.fst ∧
        ∃ outcome, AgreeingViews kind filterSet outcome) ∧
    ∀ (settings : Settings) (filterSet : FilterSet Marker),
      (settings.filters.map Prod.fst).Nodup → build .markers settings = .ok filterSet →
        filterSet.names = settings.filters.map Prod.fst ∧
        ∃ outcome, AgreeingViews .markers filterSet outcome := by
  constructor
  · intro Item kind settings filterSet distinct built
    have named := names_of_build built
    exact ⟨named, exists_agreeingViews kind.isDecided_pure (named ▸ distinct)⟩
  · intro settings filterSet distinct built
    have named := names_of_build built
    exact ⟨named, exists_agreeingViews PredicateKind.isDecided_markers (named ▸ distinct)⟩

theorem matching_agrees_with_select_until_fault :
    ∃ filterSet, build .standard
        { filters := [(['a'], "A==x".toList), (['b'], "B==x".toList)] } = .ok filterSet ∧
      filterSet.matching .standard ⟨.null, [(.text ['b'], .text ['X'])], .null, .null, .null⟩ =
        .ok [['b']] ∧
      filterSet.select .standard (.text ['b']) (Event.mk .null · .null .null .null) none
        [[(.text ['b'], .text ['X'])], [], [(.text ['b'], .text ['X'])]] =
          .ok ⟨[[(.text ['b'], .text ['X'])], [(.text ['b'], .text ['X'])]], 3, none⟩ ∧
      -- The search for `A` stops at a key without letter case, the one for `B` before it.
      filterSet.matching .standard
        ⟨.null, [(.text ['B'], .text ['x']), (.null, .null)], .null, .null, .null⟩ =
          .error (.keyWithoutCase .null) ∧
      filterSet.select .standard (.text ['a']) (Event.mk .null · .null .null .null) none
        [[(.text ['A'], .text ['x'])], [(.text ['B'], .text ['x']), (.null, .null)], []] =
          .ok ⟨[[(.text ['A'], .text ['x'])]], 2, some (.keyWithoutCase .null)⟩ ∧
      filterSet.select .standard (.text ['b']) (Event.mk .null · .null .null .null) none
        [[(.text ['A'], .text ['x'])], [(.text ['B'], .text ['x']), (.null, .null)], []] =
          .ok ⟨[[(.text ['B'], .text ['x']), (.null, .null)]], 3, none⟩ ∧
      filterSet.select .standard (.text ['c']) (Event.mk .null · .null .null .null) none
        [[(.null, .null)]] = .error (.unknownFilter (.text ['c'])) := by
  let first : Predicate := ⟨"A==x".toList, ⟨['A'], .equal, ['x']⟩, none⟩
  let second : Predicate := ⟨"B==x".toList, ⟨['B'], .equal, ['x']⟩, none⟩
  have built : build .standard { filters := [(['a'], "A==x".toList), (['b'], "B==x".toList)] } =
      .ok ⟨[(['a'], ⟨"A==x".toList, .single first⟩), (['b'], ⟨"B==x".toList, .single second⟩)]⟩ :=
    rfl
  refine ⟨_, built, ?_⟩
  obtain ⟨_, outcome, views⟩ := matching_agrees_with_select.1 .standard _ _ (by decide) built
  have firstOutcome : outcome ['a'] = first.testEvent := by
    obtain ⟨filter, found, tests⟩ := views.test ['a'] List.mem_cons_self
    cases found
    exact funext fun event => (tests event).symm
  have secondOutcome : outcome ['b'] = second.testEvent := by
    obtain ⟨filter, found, tests⟩ := views.test ['b'] (by decide)
    cases found
    exact funext fun event => (tests event).symm
  have allPass : ∀ source ∈ [[(.text ['b'], .text ['X'])], [], [(.text ['b'], .text ['X'])]],
      ∀ name ∈ [['a'], ['b']],
        ∃ answer, outcome name (Event.mk .null source .null .null .null) = .ok answer := by
    simp only [List.forall_mem_cons, firstOutcome, secondOutcome]
    exact ⟨⟨⟨_, rfl⟩, ⟨_, rfl⟩, List.forall_mem_nil _⟩,
      ⟨⟨_, rfl⟩, ⟨_, rfl⟩, List.forall_mem_nil _⟩,
      ⟨⟨_, rfl⟩, ⟨_, rfl⟩, List.forall_mem_nil _⟩, List.forall_mem_nil _⟩
  obtain ⟨passing, sees, selects⟩ := views.agree _ _ allPass
  have matched : passing [(.text ['b'], .text ['X'])] = [['b']] :=
    (Except.ok.inj (sees _ List.mem_cons_self).1).symm
  have unmatched : passing [] = [] :=
    (Except.ok.inj (sees _ (List.mem_cons_of_mem _ List.mem_cons_self)).1).symm
  refine ⟨rfl, ?_, ?_, ?_, ?_, views.select_unknown _ none _ ['c'] (by decide)⟩
  · simpa [matched, unmatched] using selects ['b'] (by decide)
  · refine views.matching_fault _ [] ['a'] _ ⟨⟨[['b']], rfl⟩, List.forall_mem_nil _, ?_⟩
    rw [firstOutcome]
    rfl
  · have found : FirstFault (fun payload =>
        outcome ['a'] (Event.mk .null payload .null .null .null))
        [[(.text ['A'], .text ['x'])], [(.text ['B'], .text ['x']), (.null, .null)], []]
        [[(.text ['A'], .text ['x'])]] [(.text ['B'], .text ['x']), (.null, .null)]
        (.keyWithoutCase .null) := by
      rw [firstOutcome]
      exact ⟨⟨[[]], rfl⟩, List.forall_mem_singleton.mpr ⟨true, rfl⟩, rfl⟩
    have selected := views.select_fault _ _ _ _ _ ['a'] List.mem_cons_self found
    rw [firstOutcome] at selected
    exact selected
  · have passes : ∀ source ∈ [[(.text ['A'], .text ['x'])],
        [(.text ['B'], .text ['x']), (.null, .null)], []],
          ∃ answer, outcome ['b'] (Event.mk .null source .null .null .null) = .ok answer := by
      simp only [List.forall_mem_cons, secondOutcome]
      exact ⟨⟨_, rfl⟩, ⟨_, rfl⟩, ⟨_, rfl⟩, List.forall_mem_nil _⟩
    have selected := views.select_pass _ _ ['b'] (by decide) passes
    rw [secondOutcome] at selected
    exact selected

end FilterSet

end Views

end EventFilter
