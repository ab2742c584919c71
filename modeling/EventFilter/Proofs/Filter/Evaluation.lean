import EventFilter.Proofs.Filter.Compilation
import EventFilter.Proofs.Symbolic.Lossless

/-!
Evaluation of compiled filters.

The tokens of a compound filter are the post-order of a formula over its items. So its evaluation
gives a value as soon as the predicates give theirs.
-/

namespace EventFilter

theorem bind_mapM_congr {Effect : Type → Type} [Monad Effect] [LawfulMonad Effect]
    {Element Result Final : Type} (test : Element → Effect Result) {elements : List Element}
    {next other : List Result → Effect Final}
    (same : ∀ results, results.length = elements.length → next results = other results) :
    elements.mapM test >>= next = elements.mapM test >>= other := by
  induction elements generalizing next other with
  | nil =>
      rw [List.mapM_nil, pure_bind, pure_bind]
      exact same [] rfl
  | cons first rest ih =>
      simp only [List.mapM_cons, bind_assoc, pure_bind]
      refine bind_congr fun result => ih ?_
      intro results sameLength
      exact same (result :: results) (by simp [sameLength])

namespace Filter

variable {Effect : Type → Type} {Item : Type} {kind : PredicateKind Effect Item}
  {settings : Settings} {expression source : Text} {items : List (Text × Item)}
  {tokens : List Token} {formula : Formula Int}

theorem exists_formula_of_build
    (built : build kind settings expression = .ok ⟨source, .compound items tokens⟩) :
    ∃ formula : Formula Int, tokens = formula.postorder ∧
      ∀ index ∈ formula.atoms, 0 ≤ index ∧ index < items.length := by
  obtain ⟨_, _, compiled⟩ := build_eq_ok_iff.mp built
  cases simple : isSimple kind expression with
  | true =>
      rw [compile, if_pos simple] at compiled
      cases built : kind.build expression with
      | error fault =>
          rw [built] at compiled
          cases compiled
      | ok item =>
          rw [built] at compiled
          cases compiled
  | false =>
      obtain ⟨symbolic, output, numbered, converted, same⟩ :=
        exists_of_compile_compound simple compiled
      cases same
      obtain ⟨tree, derived, rfl⟩ := (Postorder.ofPlaced_eq_ok_iff _ _ _).mp converted
      obtain ⟨_, _, isNumbering⟩ := Symbolic.reads_of_ofText numbered
      refine ⟨tree.formula, rfl, ?_⟩
      intro index inside
      have symbols : tree.tokens = symbolic.tokens := derived
      rw [← Postorder.filterMap_symbol?_tokens, symbols, ← List.mem_eraseDups,
        isNumbering.numbers] at inside
      obtain ⟨number, below, rfl⟩ := List.mem_map.mp inside
      exact ⟨Int.natCast_nonneg number, Int.ofNat_lt.mpr (List.mem_range.mp below)⟩

theorem isSome_truthOf {answers : List Bool} {index : Int} (natural : 0 ≤ index)
    (below : index < answers.length) : (truthOf answers index).isSome := by
  have found : index.toNat < answers.length := by omega
  rw [truthOf, if_neg (by omega), List.getElem?_eq_getElem found]
  rfl

theorem evaluate_postorder [Monad Effect] [LawfulMonad Effect] [MonadExceptOf Fault Effect]
    (within : ∀ index ∈ formula.atoms, 0 ≤ index ∧ index < items.length)
    (properties : PropertyMap) (eventName : Value) :
    evaluate kind items formula.postorder properties eventName = (do
      let answers ← items.mapM fun item => kind.testProperties item.2 properties eventName
      pure (formula.value fun index => (truthOf answers index).getD false)) := by
  rw [evaluate]
  apply bind_mapM_congr
  intro answers sameLength
  have covered : ∀ index ∈ formula.atoms,
      truthOf answers index = some ((truthOf answers index).getD false) := by
    intro index mentioned
    obtain ⟨natural, below⟩ := within index mentioned
    obtain ⟨answer, found⟩ :=
      Option.isSome_iff_exists.mp (isSome_truthOf natural (sameLength ▸ below))
    rw [found, Option.getD_some]
  rw [Postorder.evaluate_postorder _ _ formula covered]
  rfl

end Filter

inductive Trial where
  | event (event : Event)
  | properties (properties : PropertyMap) (eventName : Value)

namespace Filter

section Trials

variable {Effect : Type → Type} {Item : Type} [Monad Effect] [MonadExceptOf Fault Effect]

def test (kind : PredicateKind Effect Item) (filter : Filter Item) : Trial → Effect Bool
  | .event event => filter.testEvent kind event
  | .properties properties eventName => filter.testProperties kind properties eventName

def attempt (kind : PredicateKind Effect Item) (filter : Filter Item) (trial : Trial) :
    Effect (Except Fault Bool) :=
  tryCatchThe Fault (Except.ok <$> filter.test kind trial) fun fault => pure (.error fault)

/-- The outcomes of one test after another. A fault does not end the sequence. -/
def outcomes (kind : PredicateKind Effect Item) (filter : Filter Item) (trials : List Trial) :
    Effect (List (Except Fault Bool)) :=
  trials.mapM (filter.attempt kind)

end Trials

end Filter

end EventFilter
