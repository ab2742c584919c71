import EventFilter.FilterSet
import EventFilter.Proofs.Traversal

/-!
Outcomes of actions.

A test may keep a record. What it gives does not depend on the record, and so an action has an
outcome, which follows from the outcomes of its parts.
-/

namespace EventFilter

/-- Effects whose actions can be told by what they give, whatever was recorded before. -/
class Observable (Effect : Type → Type) [Monad Effect] [MonadExceptOf Fault Effect] where
  Gives {Result : Type} : Effect Result → Except Fault Result → Prop
  gives_pure {Result : Type} (result : Result) : Gives (pure result) (.ok result)
  gives_throw {Result : Type} (fault : Fault) :
    Gives (throw fault : Effect Result) (.error fault)
  throw_bind {First Second : Type} (fault : Fault) (next : First → Effect Second) :
    (throw fault : Effect First) >>= next = throw fault
  gives_bind {First Second : Type} {action : Effect First} {next : First → Effect Second}
    {outcome : Except Fault First} {following : First → Except Fault Second}
    (gives : Gives action outcome)
    (givesNext : ∀ result, outcome = .ok result → Gives (next result) (following result)) :
    Gives (action >>= next) (outcome >>= following)
  gives_outcome {action : Effect Bool} {outcome : Except Fault Bool}
    (gives : Gives action outcome) : Gives (Selection.outcome action) (.ok outcome)

instance : Observable (Except Fault) where
  Gives action outcome := action = outcome
  gives_pure _ := rfl
  gives_throw _ := rfl
  throw_bind _ _ := rfl
  gives_bind := by
    rintro First Second action next outcome following rfl givesNext
    cases action with
    | error fault => rfl
    | ok result => exact givesNext result rfl
  gives_outcome := by
    rintro action outcome rfl
    cases action with
    | error fault => rfl
    | ok answer => rfl

instance : Observable Marker.Counted where
  Gives action outcome := ∀ calls, Prod.fst <$> action.run calls = outcome
  gives_pure _ _ := rfl
  gives_throw _ _ := rfl
  throw_bind _ _ := rfl
  gives_bind := by
    intro First Second action next outcome following gives givesNext calls
    rw [StateT.run_bind]
    have given := gives calls
    cases ran : action.run calls with
    | error fault =>
        rw [ran] at given
        subst given
        rfl
    | ok found =>
        obtain ⟨result, after⟩ := found
        rw [ran] at given
        subst given
        exact givesNext result rfl after
  gives_outcome := by
    intro action outcome gives calls
    have caught : (Selection.outcome action).run calls =
        tryCatchThe Fault ((Except.ok <$> action).run calls)
          fun fault => (pure (.error fault) : Marker.Counted (Except Fault Bool)).run calls := rfl
    have given := gives calls
    rw [caught, StateT.run_map]
    cases ran : action.run calls with
    | error fault =>
        rw [ran] at given
        subst given
        rfl
    | ok found =>
        rw [ran] at given
        subst given
        rfl

def isPassed : Except Fault Bool → Bool
  | .ok answer => answer
  | .error _ => false

theorem ok_isPassed {outcome : Except Fault Bool} (passes : ∃ answer, outcome = .ok answer) :
    outcome = .ok (isPassed outcome) := by
  obtain ⟨answer, rfl⟩ := passes
  rfl

namespace Observable

variable {Effect : Type → Type} [Monad Effect] [MonadExceptOf Fault Effect] [Observable Effect]
  {Element First Second : Type}

@[simp]
theorem gives_iff_eq {action outcome : Except Fault First} :
    Gives action outcome ↔ action = outcome :=
  Iff.rfl

theorem gives_bind_ok {action : Effect First} {next : First → Effect Second} {result : First}
    {outcome : Except Fault Second} (gives : Gives action (.ok result))
    (givesNext : Gives (next result) outcome) : Gives (action >>= next) outcome := by
  have bound : Gives (action >>= next) ((.ok result : Except Fault First) >>= fun _ => outcome) :=
    gives_bind gives fun _ same => Except.ok.inj same ▸ givesNext
  exact bound

theorem gives_bind_error {action : Effect First} {next : First → Effect Second} {fault : Fault}
    (gives : Gives action (.error fault)) : Gives (action >>= next) (.error fault) := by
  have bound : Gives (action >>= next)
      ((.error fault : Except Fault First) >>= fun _ => .error fault) :=
    gives_bind gives nofun
  exact bound

theorem gives_ofExcept (outcome : Except Fault First) :
    Gives (MonadExcept.ofExcept outcome : Effect First) outcome := by
  cases outcome with
  | error fault => exact gives_throw fault
  | ok result => exact gives_pure result

theorem gives_mapM [LawfulMonad Effect] {test : Element → Effect First}
    {outcome : Element → Except Fault First}
    (gives : ∀ element, Gives (test element) (outcome element)) (elements : List Element) :
    Gives (elements.mapM test) (elements.mapM outcome) := by
  induction elements with
  | nil => exact gives_pure []
  | cons first rest ih =>
      rw [List.mapM_cons, List.mapM_cons]
      refine gives_bind (gives first) fun result _ => gives_bind ih fun results _ => ?_
      exact gives_pure (result :: results)

section Loops

variable {test : Element → Effect Bool} {outcome : Element → Except Fault Bool}
  {elements before : List Element} {element : Element} {fault : Fault}

-- The loop behind `filterM` collects what passes in reverse, so the induction is for any such list.
theorem gives_filterAuxM (gives : ∀ element ∈ elements, Gives (test element) (outcome element))
    (passes : ∀ element ∈ elements, ∃ answer, outcome element = .ok answer)
    (kept : List Element) :
    Gives (elements.filterAuxM test kept)
      (.ok ((elements.filter fun element => isPassed (outcome element)).reverse ++ kept)) := by
  induction elements generalizing kept with
  | nil => exact gives_pure kept
  | cons first rest ih =>
      obtain ⟨given, gives⟩ := List.forall_mem_cons.mp gives
      obtain ⟨passed, passes⟩ := List.forall_mem_cons.mp passes
      rw [ok_isPassed passed] at given
      refine gives_bind_ok given ?_
      cases decided : isPassed (outcome first) with
      | true => simpa [decided] using ih gives passes (first :: kept)
      | false => simpa [decided] using ih gives passes kept

theorem gives_filterM (gives : ∀ element ∈ elements, Gives (test element) (outcome element))
    (passes : ∀ element ∈ elements, ∃ answer, outcome element = .ok answer) :
    Gives (elements.filterM test)
      (.ok (elements.filter fun element => isPassed (outcome element))) := by
  refine gives_bind_ok (gives_filterAuxM gives passes []) ?_
  rw [List.append_nil, List.reverse_reverse]
  exact gives_pure _

theorem gives_filterAuxM_fault
    (gives : ∀ element ∈ elements, Gives (test element) (outcome element))
    (found : FirstFault outcome elements before element fault) (kept : List Element) :
    Gives (elements.filterAuxM test kept) (.error fault) := by
  induction before generalizing elements kept with
  | nil =>
      obtain ⟨⟨after, rfl⟩, _, fails⟩ := found
      have given := gives element List.mem_cons_self
      rw [fails] at given
      exact gives_bind_error given
  | cons first rest ih =>
      obtain ⟨after, rfl⟩ := found.placed
      obtain ⟨given, gives⟩ := List.forall_mem_cons.mp gives
      obtain ⟨answer, passed⟩ := found.passes first List.mem_cons_self
      rw [passed] at given
      exact gives_bind_ok given (ih gives found.tail _)

theorem gives_filterM_fault
    (gives : ∀ element ∈ elements, Gives (test element) (outcome element))
    (found : FirstFault outcome elements before element fault) :
    Gives (elements.filterM test) (.error fault) :=
  gives_bind_error (gives_filterAuxM_fault gives found [])

theorem gives_ofList_cons {first : Element} {rest : List Element} {isChosen : Bool}
    {following : Selection Element} (given : Gives (test first) (.ok isChosen))
    (givesRest : Gives (Selection.ofList test none rest) (.ok following)) :
    Gives (Selection.ofList test none (first :: rest))
      (.ok (Selection.after first isChosen following)) := by
  refine gives_bind_ok (gives_outcome given) ?_
  cases isChosen with
  | true => exact gives_bind_ok givesRest (gives_pure _)
  | false => exact gives_bind_ok givesRest (gives_pure _)

theorem gives_ofList (gives : ∀ element ∈ elements, Gives (test element) (outcome element))
    (passes : ∀ element ∈ elements, ∃ answer, outcome element = .ok answer) :
    Gives (Selection.ofList test none elements)
      (.ok ⟨elements.filter fun element => isPassed (outcome element), elements.length, none⟩) := by
  induction elements with
  | nil => exact gives_pure Selection.nothing
  | cons first rest ih =>
      obtain ⟨given, gives⟩ := List.forall_mem_cons.mp gives
      obtain ⟨passed, passes⟩ := List.forall_mem_cons.mp passes
      rw [ok_isPassed passed] at given
      rw [List.filter_cons]
      exact gives_ofList_cons given (ih gives passes)

theorem gives_ofList_fault
    (gives : ∀ element ∈ elements, Gives (test element) (outcome element))
    (found : FirstFault outcome elements before element fault) :
    Gives (Selection.ofList test none elements)
      (.ok ⟨before.filter fun element => isPassed (outcome element), before.length + 1,
        some fault⟩) := by
  induction before generalizing elements with
  | nil =>
      obtain ⟨⟨after, rfl⟩, _, fails⟩ := found
      have given := gives element List.mem_cons_self
      rw [fails] at given
      exact gives_bind_ok (gives_outcome given) (gives_pure _)
  | cons first rest ih =>
      obtain ⟨after, rfl⟩ := found.placed
      obtain ⟨given, gives⟩ := List.forall_mem_cons.mp gives
      rw [ok_isPassed (found.passes first List.mem_cons_self)] at given
      rw [List.filter_cons]
      exact gives_ofList_cons given (ih gives found.tail)

end Loops

end Observable

end EventFilter
