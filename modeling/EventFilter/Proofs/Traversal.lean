import Mathlib.Data.List.Forall2
import EventFilter.Fault

/-!
Traversals of lists that stop at the first fault.
-/

namespace EventFilter

theorem exists_related_of_mem {First Second : Type} {relation : First → Second → Prop}
    {firsts : List First} {seconds : List Second} {first : First}
    (related : List.Forall₂ relation firsts seconds) (inside : first ∈ firsts) :
    ∃ second ∈ seconds, relation first second := by
  induction related with
  | nil => cases inside
  | @cons head second rest others same _ ih =>
      rcases List.mem_cons.mp inside with rfl | later
      · exact ⟨second, List.mem_cons_self, same⟩
      · obtain ⟨found, member, same⟩ := ih later
        exact ⟨found, List.mem_cons_of_mem second member, same⟩

theorem foldlM_cons_eq_ok_iff {State Element Reason : Type}
    {step : State → Element → Except Reason State} {before after : State} {first : Element}
    {rest : List Element} :
    (first :: rest).foldlM step before = .ok after ↔
      ∃ next, step before first = .ok next ∧ rest.foldlM step next = .ok after := by
  rw [List.foldlM_cons]
  cases step before first with
  | error reason =>
      constructor
      · rintro ⟨⟩
      · rintro ⟨_, ⟨⟩, _⟩
  | ok next =>
      constructor
      · intro run
        exact ⟨next, rfl, run⟩
      · rintro ⟨_, ⟨⟩, run⟩
        exact run

section Tests

variable {Element Result : Type} {test : Element → Except Fault Result} {elements : List Element}

theorem mapM_congr {other : Element → Except Fault Result}
    (same : ∀ element ∈ elements, test element = other element) :
    elements.mapM test = elements.mapM other := by
  induction elements with
  | nil => rfl
  | cons first rest ih =>
      rw [List.mapM_cons, List.mapM_cons, same first List.mem_cons_self,
        ih fun element inside => same element (List.mem_cons_of_mem first inside)]

theorem mapM_eq_ok_iff {results : List Result} :
    elements.mapM test = .ok results ↔
      List.Forall₂ (fun element result => test element = .ok result) elements results := by
  induction elements generalizing results with
  | nil =>
      rw [List.mapM_nil, List.forall₂_nil_left_iff]
      exact ⟨fun same => (Except.ok.inj same).symm, fun same => congrArg Except.ok same.symm⟩
  | cons first rest ih =>
      rw [List.mapM_cons, List.forall₂_cons_left_iff]
      cases tested : test first with
      | error fault => simp [bind, Except.bind]
      | ok result =>
          simp only [← ih, Except.ok.injEq, ↓existsAndEq, true_and]
          cases rest.mapM test with
          | error fault => simp [bind, Except.bind]
          | ok following => simp [bind, Except.bind, pure, Except.pure, eq_comm]

theorem mapM_eq_ok {result : Element → Result}
    (passes : ∀ element ∈ elements, test element = .ok (result element)) :
    elements.mapM test = .ok (elements.map result) := by
  rw [mapM_eq_ok_iff, List.forall₂_map_right_iff, List.forall₂_same]
  exact passes

theorem exists_mapM_eq_ok_iff :
    (∃ results, elements.mapM test = .ok results) ↔
      ∀ element ∈ elements, ∃ result, test element = .ok result := by
  simp only [mapM_eq_ok_iff]
  induction elements with
  | nil => exact ⟨fun _ => List.forall_mem_nil _, fun _ => ⟨[], .nil⟩⟩
  | cons first rest ih =>
      rw [List.forall_mem_cons, ← ih]
      constructor
      · rintro ⟨results, related⟩
        obtain ⟨result, following, passed, others, rfl⟩ := List.forall₂_cons_left_iff.mp related
        exact ⟨⟨result, passed⟩, following, others⟩
      · rintro ⟨⟨result, passed⟩, results, following⟩
        exact ⟨result :: results, .cons passed following⟩

/-- The first element of a list, and the elements before it, for which a test raises a fault. -/
structure FirstFault (test : Element → Except Fault Result) (elements before : List Element)
    (element : Element) (fault : Fault) : Prop where
  placed : ∃ after, elements = before ++ element :: after
  passes : ∀ earlier ∈ before, ∃ result, test earlier = .ok result
  fails : test element = .error fault

namespace FirstFault

variable {before : List Element} {first element : Element} {result : Result} {fault : Fault}

theorem head (fails : test first = .error fault) (rest : List Element) :
    FirstFault test (first :: rest) [] first fault :=
  ⟨⟨rest, rfl⟩, List.forall_mem_nil _, fails⟩

theorem cons (passed : test first = .ok result)
    (found : FirstFault test elements before element fault) :
    FirstFault test (first :: elements) (first :: before) element fault := by
  obtain ⟨⟨after, rfl⟩, passes, fails⟩ := found
  exact ⟨⟨after, rfl⟩, List.forall_mem_cons.mpr ⟨⟨result, passed⟩, passes⟩, fails⟩

theorem tail (found : FirstFault test (first :: elements) (first :: before) element fault) :
    FirstFault test elements before element fault := by
  obtain ⟨⟨after, placed⟩, passes, fails⟩ := found
  exact ⟨⟨after, (List.cons.inj placed).2⟩, (List.forall_mem_cons.mp passes).2, fails⟩

theorem of_map {Source : Type} {source : Source → Element} {sources : List Source}
    (found : FirstFault test (sources.map source) before element fault) :
    ∃ earlier first, FirstFault (fun given => test (source given)) sources earlier first fault := by
  obtain ⟨⟨after, placed⟩, passes, fails⟩ := found
  obtain ⟨earlier, others, rfl, rfl, mapped⟩ := List.map_eq_append_iff.mp placed
  obtain ⟨first, later, rfl, rfl, rfl⟩ := List.map_eq_cons_iff.mp mapped
  refine ⟨earlier, first, ⟨later, rfl⟩, ?_, fails⟩
  intro given inside
  exact passes (source given) (List.mem_map_of_mem inside)

end FirstFault

theorem passes_or_firstFault (test : Element → Except Fault Result) (elements : List Element) :
    (∀ element ∈ elements, ∃ result, test element = .ok result) ∨
      ∃ before element fault, FirstFault test elements before element fault := by
  induction elements with
  | nil => exact .inl (List.forall_mem_nil _)
  | cons first rest ih =>
      cases tested : test first with
      | error fault => exact .inr ⟨[], first, fault, .head tested rest⟩
      | ok result =>
          rcases ih with passes | ⟨before, element, fault, found⟩
          · exact .inl (List.forall_mem_cons.mpr ⟨⟨result, tested⟩, passes⟩)
          · exact .inr ⟨first :: before, element, fault, found.cons tested⟩

theorem mapM_eq_error {before : List Element} {element : Element} {fault : Fault}
    (found : FirstFault test elements before element fault) :
    elements.mapM test = .error fault := by
  obtain ⟨⟨after, rfl⟩, passes, fails⟩ := found
  induction before with
  | nil =>
      rw [List.nil_append, List.mapM_cons, fails]
      rfl
  | cons first rest ih =>
      obtain ⟨result, passed⟩ := passes first List.mem_cons_self
      rw [List.cons_append, List.mapM_cons, passed,
        ih fun earlier inside => passes earlier (List.mem_cons_of_mem first inside)]
      rfl

end Tests

end EventFilter
