import EventFilter.Proofs.Filter.Compilation

/-!
What a filter sees of a property map.

A predicate looks its property up by name, and then by the names that differ in letter case only.
So a filter answers alike on two maps that agree, in this order, on the entries under the names
that its predicates mention.
-/

namespace EventFilter

def Key.folded? : Key → Option Text
  | .text name => some (Text.foldCase name)
  | _ => none

namespace PropertyMap

def HasTextKeys (properties : PropertyMap) : Prop :=
  ∀ entry ∈ properties, ∃ name : Text, entry.1 = .text name

/-- The entries under a name in any letter case, in the order of the map. -/
def related (properties : PropertyMap) (name : Text) : PropertyMap :=
  properties.filter fun entry => entry.1.folded? = some (Text.foldCase name)

variable {properties others : PropertyMap}

theorem get?_related (properties : PropertyMap) (name : Text) :
    (properties.related name).get? name = properties.get? name := by
  have implied (entry : Key × Value) :
      decide (decide (entry.1.folded? = some (Text.foldCase name)) = true ∧
        decide (entry.1 = .text name) = true) = decide (entry.1 = .text name) := by
    simp only [decide_eq_true_eq, decide_eq_decide, and_iff_right_iff_imp]
    intro same
    rw [same, Key.folded?]
  rw [get?, get?, related, List.find?_filter]
  simp only [implied]

theorem related_eq_of_perm (reordered : properties.Perm others)
    (distinct : (properties.map fun entry => entry.1.folded?).Nodup) (name : Text) :
    properties.related name = others.related name := by
  have same : (properties.related name).Perm (others.related name) := reordered.filter _
  have alike : ∀ folded ∈ (properties.related name).map fun entry => entry.1.folded?,
      folded = some (Text.foldCase name) := by
    intro folded inside
    obtain ⟨entry, kept, rfl⟩ := List.mem_map.mp inside
    exact of_decide_eq_true (List.mem_filter.mp kept).2
  have distinct : ((properties.related name).map fun entry => entry.1.folded?).Nodup :=
    distinct.sublist (List.filter_sublist.map _)
  -- At most one entry is under the name in any letter case, so there is nothing to reorder.
  cases found : properties.related name with
  | nil =>
      rw [found] at same
      exact same.nil_eq
  | cons first rest =>
      rw [found] at same distinct alike
      cases rest with
      | nil => exact List.singleton_perm.mp same
      | cons second rest =>
          simp only [List.map_cons, List.forall_mem_cons] at alike
          rw [List.map_cons, List.map_cons, alike.1, alike.2.1] at distinct
          exact absurd List.mem_cons_self (List.nodup_cons.mp distinct).1

end PropertyMap

namespace Predicate

open PropertyMap

variable {properties others : PropertyMap} {eventName otherName : Value}

theorem lookupFolded_related (textKeys : properties.HasTextKeys) (name : Text) :
    lookupFolded (Text.foldCase name) (properties.related name) =
      lookupFolded (Text.foldCase name) properties := by
  induction properties with
  | nil => rfl
  | cons entry rest ih =>
      obtain ⟨⟨key, value⟩, textKeys⟩ := entry, List.forall_mem_cons.mp textKeys
      obtain ⟨present, rfl⟩ := textKeys.1
      have following := ih textKeys.2
      by_cases same : Text.foldCase present = Text.foldCase name
      · simp [related, Key.folded?, lookupFolded, same]
      · rw [lookupFolded, if_neg same, ← following]
        simp [related, Key.folded?, same]

theorem lookup_related (textKeys : properties.HasTextKeys) (name : Text) :
    lookup (properties.related name) name = lookup properties name := by
  rw [lookup, lookup, get?_related, lookupFolded_related textKeys]

theorem testProperties_congr (predicate : Predicate) (textKeys : properties.HasTextKeys)
    (otherTextKeys : others.HasTextKeys)
    (sameName : predicate.parts.property = eventNameProperty → eventName = otherName)
    (sameEntries : predicate.parts.property ≠ eventNameProperty →
      properties.related predicate.parts.property = others.related predicate.parts.property) :
    predicate.testProperties properties eventName =
      predicate.testProperties others otherName := by
  have sameSubject : predicate.subject properties eventName =
      predicate.subject others otherName := by
    by_cases comparesName : predicate.parts.property = eventNameProperty
    · rw [subject, subject, if_pos comparesName, if_pos comparesName, sameName comparesName]
    · rw [subject, subject, if_neg comparesName, if_neg comparesName,
        ← lookup_related textKeys, ← lookup_related otherTextKeys, sameEntries comparesName]
  rw [testProperties, testProperties, sameSubject]

end Predicate

namespace Filter

open Predicate (eventNameProperty)

variable {filter : Filter Predicate} {properties others : PropertyMap}
  {eventName otherName : Value}

theorem testProperties_congr
    (same : ∀ predicate ∈ filter.items, predicate.testProperties properties eventName =
      predicate.testProperties others otherName) :
    filter.testProperties .standard properties eventName =
      filter.testProperties .standard others otherName := by
  obtain ⟨source, form⟩ := filter
  cases form with
  | single predicate => exact same predicate List.mem_cons_self
  | compound items tokens =>
      have answers : items.mapM (fun item =>
          PredicateKind.standard.testProperties item.2 properties eventName) =
            items.mapM fun item =>
              PredicateKind.standard.testProperties item.2 others otherName :=
        mapM_congr fun item inside => same item.2 (List.mem_map_of_mem inside)
      simp only [testProperties, evaluate, answers]

def looksUp (filter : Filter Predicate) (key : Key) : Bool :=
  filter.items.any fun predicate =>
    predicate.parts.property ≠ eventNameProperty &&
      key.folded? = some (Text.foldCase predicate.parts.property)

theorem related_filter_looksUp {predicate : Predicate} (inside : predicate ∈ filter.items)
    (other : predicate.parts.property ≠ eventNameProperty) (properties : PropertyMap) :
    PropertyMap.related (properties.filter fun entry => filter.looksUp entry.1)
        predicate.parts.property =
      properties.related predicate.parts.property := by
  rw [PropertyMap.related, PropertyMap.related, List.filter_filter]
  apply List.filter_congr
  intro entry _
  simp only [Bool.and_eq_left_iff_imp, decide_eq_true_eq]
  intro found
  exact List.any_eq_true.mpr ⟨predicate, inside, by simp [other, found]⟩

/-- The answer of a filter, or its fault, depends on nothing but the event name, if a predicate
compares it, and for each other property on the entries under this name in any letter case, in
their order. So entries that no predicate looks for have no part in it, nor has the order of a map
whose keys differ in more than letter case. -/
theorem testProperties_relevant (filter : Filter Predicate) {properties others : PropertyMap}
    (textKeys : properties.HasTextKeys) (otherTextKeys : others.HasTextKeys) :
    (∀ eventName otherName : Value,
      ((∃ predicate ∈ filter.items, predicate.parts.property = eventNameProperty) →
        eventName = otherName) →
      (∀ predicate ∈ filter.items, predicate.parts.property ≠ eventNameProperty →
        properties.related predicate.parts.property =
          others.related predicate.parts.property) →
      filter.testProperties .standard properties eventName =
        filter.testProperties .standard others otherName) ∧
    ((properties.filter fun entry => filter.looksUp entry.1) =
        (others.filter fun entry => filter.looksUp entry.1) →
      ∀ eventName : Value, filter.testProperties .standard properties eventName =
        filter.testProperties .standard others eventName) ∧
    (properties.Perm others → (properties.map fun entry => entry.1.folded?).Nodup →
      ∀ eventName : Value, filter.testProperties .standard properties eventName =
        filter.testProperties .standard others eventName) := by
  have general (eventName otherName : Value)
      (sameName : (∃ predicate ∈ filter.items, predicate.parts.property = eventNameProperty) →
        eventName = otherName)
      (sameEntries : ∀ predicate ∈ filter.items,
        predicate.parts.property ≠ eventNameProperty →
          properties.related predicate.parts.property =
            others.related predicate.parts.property) :
      filter.testProperties .standard properties eventName =
        filter.testProperties .standard others otherName := by
    apply testProperties_congr
    intro predicate inside
    exact predicate.testProperties_congr textKeys otherTextKeys
      (fun compares => sameName ⟨predicate, inside, compares⟩) (sameEntries predicate inside)
  refine ⟨general, ?_, ?_⟩
  · intro sameSeen eventName
    refine general eventName eventName (fun _ => rfl) fun predicate inside other => ?_
    rw [← related_filter_looksUp inside other properties, sameSeen,
      related_filter_looksUp inside other others]
  · intro reordered distinct eventName
    refine general eventName eventName (fun _ => rfl) fun predicate _ _ => ?_
    exact PropertyMap.related_eq_of_perm reordered distinct predicate.parts.property

theorem testProperties_relevant_level :
    ∃ filter, build .standard {} "level==high&&EventName==Log".toList = .ok filter ∧
      -- The first key that is `level` in another letter case decides, as none is exactly `level`.
      filter.testProperties .standard [(.text ['I', 'D'], .integer 1),
        (.text "LEVEL".toList, .text "High".toList), (.text "Level".toList, .text "low".toList)]
        (.text "log".toList) = .ok true ∧
      filter.testProperties .standard [(.text "LEVEL".toList, .text "High".toList),
        (.text "Level".toList, .text "low".toList), (.text ['I', 'D'], .null)]
        (.text "log".toList) = .ok true ∧
      filter.testProperties .standard [(.text "LEVEL".toList, .text "High".toList),
        (.text "Level".toList, .text "low".toList)] (.text "log".toList) = .ok true ∧
      filter.testProperties .standard [(.text "LEVEL".toList, .text "High".toList),
        (.text ['I', 'D'], .integer 1)] (.text "log".toList) = .ok true := by
  have spans : Spans.ofText .standard true "level==high&&EventName==Log".toList =
      ⟨[⟨0, .predicate, "level==high".toList⟩, ⟨11, .connective .and, ['&', '&']⟩,
        ⟨13, .predicate, "EventName==Log".toList⟩], none⟩ := by
    decide +kernel
  have complex : isSimple .standard "level==high&&EventName==Log".toList = false := by
    decide +kernel
  obtain ⟨symbolic, numbered, tokens, items⟩ : ∃ symbolic,
      Symbolic.ofText ⟨.standard, none⟩ true "level==high&&EventName==Log".toList =
          .ok symbolic ∧
        symbolic.tokens = [.symbol 0, .connective .and, .symbol 1] ∧
        symbolic.items =
          [("level==high".toList, ⟨"level==high".toList,
              ⟨"level".toList, .equal, "high".toList⟩, none⟩),
            ("EventName==Log".toList, ⟨"EventName==Log".toList,
              ⟨"EventName".toList, .equal, "Log".toList⟩, none⟩)] := by
    rw [Symbolic.ofText, spans]
    exact ⟨_, rfl, rfl, rfl⟩
  let tree : ParseTree Int .loose := .ofConjunct (.and (.ofNegand (.atom 0)) (.atom 1))
  have derived : tree.tokens = symbolic.tokens := tokens.symm
  have built : build .standard {} "level==high&&EventName==Log".toList =
      .ok ⟨"level==high&&EventName==Log".toList,
        .compound symbolic.items tree.formula.postorder⟩ :=
    build_eq_ok_iff.mpr
      ⟨List.cons_ne_nil _ _, rfl, compile_compound complex numbered derived⟩
  rw [items] at built
  refine ⟨_, built, ?_⟩
  generalize same : (⟨"level==high&&EventName==Log".toList, _⟩ : Filter Predicate) = filter
  have mentioned : filter.items = [⟨"level==high".toList,
      ⟨"level".toList, .equal, "high".toList⟩, none⟩, ⟨"EventName==Log".toList,
        ⟨"EventName".toList, .equal, "Log".toList⟩, none⟩] := by
    rw [← same]
    rfl
  have passed : filter.testProperties .standard [(.text ['I', 'D'], .integer 1),
      (.text "LEVEL".toList, .text "High".toList), (.text "Level".toList, .text "low".toList)]
      (.text "log".toList) = .ok true := by
    rw [← same]
    rfl
  refine ⟨passed, ?_, ?_, ?_⟩
  · refine Eq.trans ((testProperties_relevant filter ?_ ?_).1 _ _ (fun _ => rfl) ?_) passed
    · simp [PropertyMap.HasTextKeys]
    · simp [PropertyMap.HasTextKeys]
    · rw [mentioned, List.forall_mem_cons]
      refine ⟨fun _ => rfl, fun predicate second other => ?_⟩
      rw [List.mem_singleton.mp second] at other
      exact absurd rfl other
  · refine Eq.trans ((testProperties_relevant filter ?_ ?_).2.1 ?_ _) passed
    · simp [PropertyMap.HasTextKeys]
    · simp [PropertyMap.HasTextKeys]
    · rw [← same]
      rfl
  · have reordered : filter.testProperties .standard [(.text ['I', 'D'], .integer 1),
        (.text "LEVEL".toList, .text "High".toList)] (.text "log".toList) = .ok true := by
      rw [← same]
      rfl
    refine Eq.trans ((testProperties_relevant filter ?_ ?_).2.2 (.swap _ _ []) ?_ _) reordered
    · simp [PropertyMap.HasTextKeys]
    · simp [PropertyMap.HasTextKeys]
    · decide +kernel

end Filter

end EventFilter
