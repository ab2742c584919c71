import EventFilter.Filter
import EventFilter.Formula.Evaluation
import EventFilter.Proofs.Symbolic.Numbering
import EventFilter.Proofs.Traversal

/-!
Testing a compound filter.

The predicates of a filter are tested in the order in which its expression first mentions them.
If all of them give an answer the filter has the value of its formula, otherwise the first fault
is reported.
-/

namespace EventFilter

def Predicate.answer (text : Text) (properties : PropertyMap) (eventName : Value) :
    Except Fault Bool := do
  let predicate ← Predicate.build text
  predicate.testProperties properties eventName

theorem Predicate.answer_of_build {text : Text} {predicate : Predicate}
    (built : Predicate.build text = .ok predicate) (properties : PropertyMap)
    (eventName : Value) :
    Predicate.answer text properties eventName =
      predicate.testProperties properties eventName := by
  rw [Predicate.answer, built]
  rfl

theorem Predicate.isValid_of_build {text : Text} {predicate : Predicate}
    (built : Predicate.build text = .ok predicate) : Predicate.isValid text = true := by
  cases parsed : PredicateParts.parse? text with
  | none =>
      rw [Predicate.build, parsed] at built
      cases built
  | some parts => rw [Predicate.isValid, parsed, Option.isSome_some]

namespace Filter

open Symbolic (place)

variable {items : List (Text × Predicate)} {formula : Formula Text} {properties : PropertyMap}
  {eventName : Value}

theorem truthOf_place {name : Text} (truth : Text → Bool)
    (known : name ∈ items.map Prod.fst) :
    truthOf (items.map fun item => truth item.1) (place items name) = some (truth name) := by
  obtain ⟨predicate, found⟩ := Symbolic.getElem?_place known
  have natural : ¬place items name < 0 := by
    simp only [place]
    omega
  rw [truthOf, if_neg natural, List.getElem?_map, found]
  rfl

theorem evaluate_value {truth : Text → Bool}
    (built : ∀ item ∈ items, Predicate.build item.1 = .ok item.2)
    (known : ∀ name ∈ formula.atoms, name ∈ items.map Prod.fst)
    (answers : ∀ item ∈ items,
      Predicate.answer item.1 properties eventName = .ok (truth item.1)) :
    evaluate .standard items (formula.map (place items)).postorder properties eventName =
      .ok (formula.value truth) := by
  have tested : items.mapM (fun item =>
      PredicateKind.standard.testProperties item.2 properties eventName) =
        .ok (items.map fun item => truth item.1) := by
    apply mapM_eq_ok
    intro item inside
    rw [← answers item inside, Predicate.answer_of_build (built item inside)]
    rfl
  let assigned (index : Int) : Bool :=
    (truthOf (items.map fun item => truth item.1) index).getD false
  have placed : ∀ name ∈ formula.atoms, assigned (place items name) = truth name := by
    intro name inside
    simp only [assigned, truthOf_place truth (known name inside), Option.getD_some]
  have covered : ∀ index ∈ (formula.map (place items)).atoms,
      truthOf (items.map fun item => truth item.1) index = some (assigned index) := by
    intro index mentioned
    rw [Formula.atoms_map] at mentioned
    obtain ⟨name, inside, rfl⟩ := List.mem_map.mp mentioned
    rw [placed name inside, truthOf_place truth (known name inside)]
  have evaluated := Postorder.evaluate_postorder _ assigned (formula.map (place items)) covered
  rw [Formula.value_map, Formula.value_congr formula placed] at evaluated
  rw [evaluate, tested]
  exact congrArg MonadExcept.ofExcept evaluated

theorem evaluate_fault {before after : List (Text × Predicate)} {item : Text × Predicate}
    {tokens : List Token} {fault : Fault}
    (built : ∀ other ∈ before ++ item :: after, Predicate.build other.1 = .ok other.2)
    (passes : ∀ earlier ∈ before,
      ∃ holds, Predicate.answer earlier.1 properties eventName = .ok holds)
    (fails : Predicate.answer item.1 properties eventName = .error fault) :
    evaluate .standard (before ++ item :: after) tokens properties eventName = .error fault := by
  have same (other : Text × Predicate) (inside : other ∈ before ++ item :: after) :
      PredicateKind.standard.testProperties other.2 properties eventName =
        Predicate.answer other.1 properties eventName :=
    (Predicate.answer_of_build (built other inside) properties eventName).symm
  have tested : (before ++ item :: after).mapM (fun item =>
      PredicateKind.standard.testProperties item.2 properties eventName) = .error fault := by
    refine mapM_eq_error ⟨⟨after, rfl⟩, ?_, ?_⟩
    · intro earlier inside
      rw [same earlier (List.mem_append_left _ inside)]
      exact passes earlier inside
    · rw [same item (by simp)]
      exact fails
  rw [evaluate, tested]
  rfl

end Filter

end EventFilter
