import EventFilter.FilterSet
import EventFilter.Proofs.Filter.Compilation

/-!
How a filter set is built.

The filters are built one by one, each from its own expression. Either all of them are built, or
the first fault is reported and nothing comes out.
-/

namespace EventFilter

namespace FilterSet

variable {Effect : Type → Type} {Item : Type} {kind : PredicateKind Effect Item}
  {settings : Settings} {filterSet : FilterSet Item} {filter : Filter Item} {name : Text}
  {fault : Fault}

section Lookup

theorem get_text (filterSet : FilterSet Item) (name : Text) :
    filterSet.get (.text name) =
      (filterSet.filters.lookup name).elim (.error (.unknownFilter (.text name))) .ok := by
  simp only [get, nameKey, Value.key?, find?, bind, Except.bind]
  cases filterSet.filters.lookup name with
  | none => rfl
  | some filter => rfl

theorem get_text_eq_ok_iff :
    filterSet.get (.text name) = .ok filter ↔ filterSet.filters.lookup name = some filter := by
  rw [get_text]
  cases filterSet.filters.lookup name with
  | none => simp
  | some present => simp

theorem get_of_mem (distinct : filterSet.names.Nodup)
    (inside : (name, filter) ∈ filterSet.filters) : filterSet.get (.text name) = .ok filter := by
  rw [get_text_eq_ok_iff, List.lookup_eq_some_iff]
  obtain ⟨before, after, placed⟩ := List.append_of_mem inside
  refine ⟨before, after, placed, ?_⟩
  intro entry earlier
  rw [names, placed, List.map_append, List.map_cons, List.nodup_append] at distinct
  rw [bne_iff_ne]
  exact (distinct.2.2 entry.1 (List.mem_map_of_mem earlier) name List.mem_cons_self).symm

end Lookup

theorem nameFault_parsing (name expression : Text) (inner : ParsingFault) :
    ∃ outer : ParsingFault, nameFault name expression (.parsing inner) = .parsing outer ∧
      outer.reason.message =
        "Invalid filter '" ++ String.ofList name ++ "': " ++ inner.reason.message ∧
      outer.expression = some expression ∧ outer.position = inner.position :=
  ⟨_, rfl, rfl, rfl, rfl⟩

theorem nameFault_of_not_parsing {name expression : Text}
    (other : ∀ inner, fault ≠ .parsing inner) : nameFault name expression fault = fault := by
  cases fault with
  | parsing inner => exact absurd rfl (other inner)
  | _ => rfl

theorem buildEntry_eq_ok_iff {entry : Text × Text} {built : Text × Filter Item} :
    buildEntry kind settings entry = .ok built ↔
      built.1 = entry.1 ∧ Filter.build kind settings entry.2 = .ok built.2 := by
  rw [buildEntry]
  cases Filter.build kind settings entry.2 with
  | error fault => simp [Except.mapError, bind, Except.bind]
  | ok filter =>
      simp [Except.mapError, bind, Except.bind, pure, Except.pure, Prod.ext_iff, eq_comm]

theorem buildEntry_eq_error_iff {entry : Text × Text} :
    buildEntry kind settings entry = .error fault ↔
      ∃ inner, Filter.build kind settings entry.2 = .error inner ∧
        fault = nameFault entry.1 entry.2 inner := by
  rw [buildEntry]
  cases Filter.build kind settings entry.2 with
  | error inner => simp [Except.mapError, bind, Except.bind, eq_comm]
  | ok filter => simp [Except.mapError, bind, Except.bind, pure, Except.pure]

theorem build_eq_ok_iff_mapM :
    build kind settings = .ok filterSet ↔
      settings.filters.mapM (buildEntry kind settings) = .ok filterSet.filters := by
  obtain ⟨present⟩ := filterSet
  rw [build]
  cases settings.filters.mapM (buildEntry kind settings) with
  | error fault => simp [bind, Except.bind]
  | ok filters => simp [bind, Except.bind, pure, Except.pure]

theorem build_eq_ok_iff :
    build kind settings = .ok filterSet ↔
      List.Forall₂ (fun entry built =>
        built.1 = entry.1 ∧ Filter.build kind settings entry.2 = .ok built.2)
        settings.filters filterSet.filters := by
  simp only [build_eq_ok_iff_mapM, mapM_eq_ok_iff, buildEntry_eq_ok_iff]

theorem exists_build_eq_ok_iff :
    (∃ filterSet, build kind settings = .ok filterSet) ↔
      ∀ entry ∈ settings.filters, ∃ filter, Filter.build kind settings entry.2 = .ok filter := by
  have traversed : (∃ filterSet, build kind settings = .ok filterSet) ↔
      ∃ filters, settings.filters.mapM (buildEntry kind settings) = .ok filters :=
    ⟨fun ⟨filterSet, built⟩ => ⟨filterSet.filters, build_eq_ok_iff_mapM.mp built⟩,
      fun ⟨filters, built⟩ => ⟨⟨filters⟩, build_eq_ok_iff_mapM.mpr built⟩⟩
  rw [traversed, exists_mapM_eq_ok_iff]
  refine forall₂_congr fun entry _ => ?_
  simp only [buildEntry_eq_ok_iff]
  exact ⟨fun ⟨built, _, compiled⟩ => ⟨built.2, compiled⟩,
    fun ⟨filter, compiled⟩ => ⟨(entry.1, filter), rfl, compiled⟩⟩

theorem build_eq_error_of_firstFault {before : List (Text × Text)} {entry : Text × Text}
    (found : FirstFault (fun entry => Filter.build kind settings entry.2) settings.filters before
      entry fault) :
    build kind settings = .error (nameFault entry.1 entry.2 fault) := by
  have foundNamed : FirstFault (buildEntry kind settings) settings.filters before entry
      (nameFault entry.1 entry.2 fault) := by
    refine ⟨found.placed, ?_, buildEntry_eq_error_iff.mpr ⟨fault, found.fails, rfl⟩⟩
    intro earlier inside
    obtain ⟨filter, built⟩ := found.passes earlier inside
    exact ⟨(earlier.1, filter), buildEntry_eq_ok_iff.mpr ⟨rfl, built⟩⟩
  rw [build, mapM_eq_error foundNamed]
  rfl

theorem names_of_build (built : build kind settings = .ok filterSet) :
    filterSet.names = settings.filters.map Prod.fst := by
  have related : List.Forall₂ (· = ·) (settings.filters.map Prod.fst) filterSet.names := by
    rw [names, List.forall₂_map_left_iff, List.forall₂_map_right_iff]
    exact (build_eq_ok_iff.mp built).imp fun _ _ same => same.1.symm
  rw [List.forall₂_eq_eq_eq] at related
  exact related.symm

theorem get_of_build (distinct : (settings.filters.map Prod.fst).Nodup)
    (built : build kind settings = .ok filterSet) {entry : Text × Text}
    (inside : entry ∈ settings.filters) :
    ∃ filter, filterSet.get (.text entry.1) = .ok filter ∧
      Filter.build kind settings entry.2 = .ok filter := by
  obtain ⟨⟨name, filter⟩, member, same, compiled⟩ :=
    exists_related_of_mem (build_eq_ok_iff.mp built) inside
  refine ⟨filter, get_of_mem ?_ (same ▸ member), compiled⟩
  rw [names_of_build built]
  exact distinct

/-- Either every filter of the settings can be built, and the set has exactly the filters that are
built from each expression alone, or the first one that cannot be built decides about the fault,
whatever follows it. Only a fault in the expression names the filter. -/
theorem build_all_or_firstFault (kind : PredicateKind Effect Item) (settings : Settings)
    (distinct : (settings.filters.map Prod.fst).Nodup) :
    ((∃ filterSet, build kind settings = .ok filterSet) ↔
      ∀ entry ∈ settings.filters, ∃ filter, Filter.build kind settings entry.2 = .ok filter) ∧
    (∀ filterSet, build kind settings = .ok filterSet →
      filterSet.names = settings.filters.map Prod.fst ∧
      ∀ entry ∈ settings.filters, ∃ filter, filterSet.get (.text entry.1) = .ok filter ∧
        ∀ others, Filter.build kind { settings with filters := others } entry.2 = .ok filter) ∧
    ((∀ filterSet, build kind settings ≠ .ok filterSet) →
      ∃ before entry fault, FirstFault (fun entry => Filter.build kind settings entry.2)
        settings.filters before entry fault) ∧
    ∀ (before : List (Text × Text)) (name expression : Text) (fault : Fault),
      FirstFault (fun entry => Filter.build kind settings entry.2) settings.filters before
        (name, expression) fault →
      (∀ inner, fault = .parsing inner → ∃ outer : ParsingFault,
        outer.reason.message =
            "Invalid filter '" ++ String.ofList name ++ "': " ++ inner.reason.message ∧
          outer.expression = some expression ∧ outer.position = inner.position ∧
          build kind settings = .error (.parsing outer) ∧
          ∀ after, build kind
            { settings with filters := before ++ (name, expression) :: after } =
              .error (.parsing outer)) ∧
      ((∀ inner, fault ≠ .parsing inner) →
        build kind settings = .error fault ∧
        ∀ after, build kind { settings with filters := before ++ (name, expression) :: after } =
          .error fault) := by
  refine ⟨exists_build_eq_ok_iff, ?_, ?_, ?_⟩
  · intro filterSet built
    refine ⟨names_of_build built, fun entry inside => ?_⟩
    obtain ⟨filter, found, compiled⟩ := get_of_build distinct built inside
    exact ⟨filter, found, fun others => compiled⟩
  · intro notBuilt
    rcases passes_or_firstFault (fun entry => Filter.build kind settings entry.2)
      settings.filters with passes | found
    · obtain ⟨filterSet, built⟩ := exists_build_eq_ok_iff.mpr passes
      exact absurd built (notBuilt filterSet)
    · exact found
  · intro before name expression fault found
    have stopped := build_eq_error_of_firstFault found
    have stoppedBefore (after : List (Text × Text)) :
        build kind { settings with filters := before ++ (name, expression) :: after } =
          .error (nameFault name expression fault) := by
      let extended : Settings :=
        { settings with filters := before ++ (name, expression) :: after }
      have foundThere : FirstFault (fun entry => Filter.build kind extended entry.2)
          extended.filters before (name, expression) fault :=
        ⟨⟨after, rfl⟩, found.passes, found.fails⟩
      exact build_eq_error_of_firstFault foundThere
    constructor
    · rintro inner rfl
      obtain ⟨outer, named, message, whole, position⟩ := nameFault_parsing name expression inner
      rw [named] at stopped
      simp only [named] at stoppedBefore
      exact ⟨outer, message, whole, position, stopped, stoppedBefore⟩
    · intro other
      rw [nameFault_of_not_parsing other] at stopped
      simp only [nameFault_of_not_parsing other] at stoppedBefore
      exact ⟨stopped, stoppedBefore⟩

theorem build_all_or_firstFault_unrecognised :
    (∃ filterSet, build .standard
        { ceiling := some 1, filters := [(['a'], "A==x".toList), (['b'], "B==y".toList)] } =
          .ok filterSet ∧
      filterSet.names = [['a'], ['b']]) ∧
    (∃ outer : ParsingFault, build .standard
        { filters := [(['a'], "A==x".toList), (['b'], ['?']), (['c'], ['('])] } =
          .error (.parsing outer) ∧
      outer.reason.message = "Invalid filter 'b': Unrecognised token" ∧
      outer.expression = some ['?'] ∧ outer.position = some 0) ∧
    build .standard { filters := [(['a'], "A==\"1\u001c\"".toList), (['b'], ['?'])] } =
      .error (.unreadableNumeral ['1', '\u001c']) := by
  refine ⟨?_, ?_, ?_⟩
  · let settings : Settings :=
      { ceiling := some 1, filters := [(['a'], "A==x".toList), (['b'], "B==y".toList)] }
    obtain ⟨isBuilt, contents, _⟩ := build_all_or_firstFault .standard settings (by decide)
    have compiled : ∀ entry ∈ settings.filters,
        ∃ filter, Filter.build .standard settings entry.2 = .ok filter := by
      simp only [settings, List.forall_mem_cons]
      exact ⟨⟨_, rfl⟩, ⟨_, rfl⟩, List.forall_mem_nil _⟩
    obtain ⟨filterSet, built⟩ := isBuilt.mpr compiled
    exact ⟨filterSet, built, (contents filterSet built).1⟩
  · let settings : Settings :=
      { filters := [(['a'], "A==x".toList), (['b'], ['?']), (['c'], ['('])] }
    have spans : Spans.ofText .standard true ['?'] = ⟨[], some 0⟩ := by decide +kernel
    have refused : Filter.build .standard settings ['?'] =
        .error (.parsing ⟨.unrecognisedToken, some ['?'], some 0⟩) := by
      have stopped : Symbolic.ofText ⟨.standard, settings.ceiling⟩ settings.keywords ['?'] =
          Symbolic.fail ['?'] .unrecognisedToken 0 := by
        rw [Symbolic.ofText, spans]
        rfl
      have complex : Filter.isSimple .standard ['?'] = false := rfl
      rw [Filter.build, Filter.compile, complex, stopped]
      rfl
    -- The third filter cannot be built either, but it is not looked at.
    have found : FirstFault (fun entry => Filter.build .standard settings entry.2)
        settings.filters [(['a'], "A==x".toList)] (['b'], ['?'])
        (.parsing ⟨.unrecognisedToken, some ['?'], some 0⟩) :=
      ⟨⟨[(['c'], ['('])], rfl⟩, List.forall_mem_singleton.mpr ⟨_, rfl⟩, refused⟩
    have decided := (build_all_or_firstFault .standard settings (by decide)).2.2.2 _ _ _ _ found
    obtain ⟨outer, message, whole, position, stopped, _⟩ := decided.1 _ rfl
    exact ⟨outer, stopped, message, whole, position⟩
  · let settings : Settings := { filters := [(['a'], "A==\"1\u001c\"".toList), (['b'], ['?'])] }
    have refused : Filter.build .standard settings "A==\"1\u001c\"".toList =
        .error (.unreadableNumeral ['1', '\u001c']) := rfl
    have found : FirstFault (fun entry => Filter.build .standard settings entry.2)
        settings.filters [] (['a'], "A==\"1\u001c\"".toList)
        (.unreadableNumeral ['1', '\u001c']) :=
      ⟨⟨[(['b'], ['?'])], rfl⟩, List.forall_mem_nil _, refused⟩
    have decided := (build_all_or_firstFault .standard settings (by decide)).2.2.2 _ _ _ _ found
    exact (decided.2 (by rintro _ ⟨⟩)).1

end FilterSet

end EventFilter
