import EventFilter.Token

/-!
Formulas over atoms, and their post-order.

`Formula.postorder` lists a formula over numbered predicates with every connective after its
operands.
-/

namespace EventFilter

inductive Formula (Atom : Type) where
  | atom (name : Atom)
  | not (operand : Formula Atom)
  | and (left right : Formula Atom)
  | or (left right : Formula Atom)
deriving DecidableEq

namespace Formula

variable {Atom Other : Type}

def value (truth : Atom → Bool) : Formula Atom → Bool
  | atom name => truth name
  | not operand => !operand.value truth
  | and left right => left.value truth && right.value truth
  | or left right => left.value truth || right.value truth

/-- The atoms as they are read, repetitions included. -/
def atoms : Formula Atom → List Atom
  | atom name => [name]
  | not operand => operand.atoms
  | and left right => left.atoms ++ right.atoms
  | or left right => left.atoms ++ right.atoms

def map (rename : Atom → Other) : Formula Atom → Formula Other
  | atom name => atom (rename name)
  | not operand => not (operand.map rename)
  | and left right => and (left.map rename) (right.map rename)
  | or left right => or (left.map rename) (right.map rename)

def postorder : Formula Int → List Token
  | atom index => [.symbol index]
  | not operand => operand.postorder ++ [.connective .not]
  | and left right => left.postorder ++ right.postorder ++ [.connective .and]
  | or left right => left.postorder ++ right.postorder ++ [.connective .or]

theorem value_congr {truth other : Atom → Bool} (formula : Formula Atom)
    (agree : ∀ name ∈ formula.atoms, truth name = other name) :
    formula.value truth = formula.value other := by
  induction formula with
  | atom name => exact agree name (by simp [atoms])
  | not operand ih => simp only [value, ih agree]
  | and left right leftIh rightIh | or left right leftIh rightIh =>
      simp only [atoms, List.mem_append] at agree
      have leftAgree := leftIh fun name inside => agree name (.inl inside)
      have rightAgree := rightIh fun name inside => agree name (.inr inside)
      simp only [value, leftAgree, rightAgree]

theorem value_map (truth : Other → Bool) (rename : Atom → Other) (formula : Formula Atom) :
    (formula.map rename).value truth = formula.value fun name => truth (rename name) := by
  induction formula with
  | atom name => rfl
  | not operand ih => simp only [map, value, ih]
  | and left right leftIh rightIh | or left right leftIh rightIh =>
      simp only [map, value, leftIh, rightIh]

theorem atoms_map (rename : Atom → Other) (formula : Formula Atom) :
    (formula.map rename).atoms = formula.atoms.map rename := by
  induction formula with
  | atom name => rfl
  | not operand ih => simp only [map, atoms, ih]
  | and left right leftIh rightIh | or left right leftIh rightIh =>
      simp only [map, atoms, leftIh, rightIh, List.map_append]

end Formula

end EventFilter
