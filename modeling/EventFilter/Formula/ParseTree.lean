import EventFilter.Formula

/-!
Parse trees of expressions.

`ParseTree` is the grammar by which token lists are read as formulas: `!` binds tighter than `&&`,
`&&` tighter than `||`, the binary connectives group to the left, and parentheses group at will.
-/

namespace EventFilter

inductive Mark (Atom : Type) where
  | atom (name : Atom)
  | connective (operator : Connective)
  | openGroup
  | closeGroup
deriving DecidableEq

/-- What a stretch of tokens can be an operand of: anything, `&&`, or `!`. -/
inductive Tightness where
  | loose
  | conjunct
  | negand
deriving DecidableEq

inductive ParseTree (Atom : Type) : Tightness → Type where
  | atom (name : Atom) : ParseTree Atom .negand
  | group (inner : ParseTree Atom .loose) : ParseTree Atom .negand
  | not (operand : ParseTree Atom .negand) : ParseTree Atom .negand
  | ofNegand (operand : ParseTree Atom .negand) : ParseTree Atom .conjunct
  | and (left : ParseTree Atom .conjunct) (right : ParseTree Atom .negand) :
      ParseTree Atom .conjunct
  | ofConjunct (operand : ParseTree Atom .conjunct) : ParseTree Atom .loose
  | or (left : ParseTree Atom .loose) (right : ParseTree Atom .conjunct) : ParseTree Atom .loose

namespace Token

def isParenthesis : Token → Bool
  | openGroup | closeGroup => true
  | _ => false

end Token

namespace Mark

variable {Atom Other : Type}

def map (rename : Atom → Other) : Mark Atom → Mark Other
  | atom name => atom (rename name)
  | connective operator => connective operator
  | openGroup => openGroup
  | closeGroup => closeGroup

def atom? : Mark Atom → Option Atom
  | atom name => some name
  | _ => none

def token : Mark Int → Token
  | atom index => .symbol index
  | connective operator => .connective operator
  | openGroup => .openGroup
  | closeGroup => .closeGroup

def startsOperand : Mark Atom → Bool
  | atom _ | openGroup | connective .not => true
  | _ => false

def endsOperand : Mark Atom → Bool
  | atom _ | closeGroup => true
  | _ => false

/-- Operands and binary connectives take turns, and an operand comes last. -/
def TakesTurns : Bool → List (Mark Atom) → Prop
  | expectsOperand, [] => expectsOperand = false
  | expectsOperand, mark :: rest =>
    mark.startsOperand = expectsOperand ∧ TakesTurns (!mark.endsOperand) rest

theorem map_map {Last : Type} (rename : Atom → Other) (again : Other → Last) (mark : Mark Atom) :
    (mark.map rename).map again = mark.map (again ∘ rename) := by
  cases mark <;> rfl

theorem map_eq_self {rename : Atom → Atom} {mark : Mark Atom}
    (keeps : ∀ name ∈ mark.atom?, rename name = name) : mark.map rename = mark := by
  cases mark with
  | atom name => exact congrArg atom (keeps name rfl)
  | connective | openGroup | closeGroup => rfl

theorem token_injective : Function.Injective token := by
  intro first second same
  cases first <;> cases second <;> simp_all [token]

theorem symbol?_token (mark : Mark Int) : mark.token.symbol? = mark.atom? := by
  cases mark <;> rfl

end Mark

namespace ParseTree

variable {Atom Other : Type} {tightness : Tightness}

def marks {tightness : Tightness} : ParseTree Atom tightness → List (Mark Atom)
  | atom name => [.atom name]
  | group inner => .openGroup :: inner.marks ++ [.closeGroup]
  | not operand => .connective .not :: operand.marks
  | ofNegand operand => operand.marks
  | and left right => left.marks ++ .connective .and :: right.marks
  | ofConjunct operand => operand.marks
  | or left right => left.marks ++ .connective .or :: right.marks

def tokens (tree : ParseTree Int tightness) : List Token :=
  tree.marks.map Mark.token

@[simp] theorem tokens_atom (index : Int) :
    (atom index).tokens = [.symbol index] := rfl

@[simp] theorem tokens_group (inner : ParseTree Int .loose) :
    (group inner).tokens = .openGroup :: inner.tokens ++ [.closeGroup] := by
  simp [tokens, marks, Mark.token]

@[simp] theorem tokens_not (operand : ParseTree Int .negand) :
    (not operand).tokens = .connective .not :: operand.tokens := rfl

@[simp] theorem tokens_ofNegand (operand : ParseTree Int .negand) :
    (ofNegand operand).tokens = operand.tokens := rfl

@[simp] theorem tokens_and (left : ParseTree Int .conjunct) (right : ParseTree Int .negand) :
    (and left right).tokens = left.tokens ++ .connective .and :: right.tokens := by
  simp [tokens, marks, Mark.token]

@[simp] theorem tokens_ofConjunct (operand : ParseTree Int .conjunct) :
    (ofConjunct operand).tokens = operand.tokens := rfl

@[simp] theorem tokens_or (left : ParseTree Int .loose) (right : ParseTree Int .conjunct) :
    (or left right).tokens = left.tokens ++ .connective .or :: right.tokens := by
  simp [tokens, marks, Mark.token]

def formula {tightness : Tightness} : ParseTree Atom tightness → Formula Atom
  | atom name => .atom name
  | group inner => inner.formula
  | not operand => .not operand.formula
  | ofNegand operand => operand.formula
  | and left right => .and left.formula right.formula
  | ofConjunct operand => operand.formula
  | or left right => .or left.formula right.formula

def map {tightness : Tightness} (rename : Atom → Other) :
    ParseTree Atom tightness → ParseTree Other tightness
  | atom name => atom (rename name)
  | group inner => group (inner.map rename)
  | not operand => not (operand.map rename)
  | ofNegand operand => ofNegand (operand.map rename)
  | and left right => and (left.map rename) (right.map rename)
  | ofConjunct operand => ofConjunct (operand.map rename)
  | or left right => or (left.map rename) (right.map rename)

theorem marks_map (rename : Atom → Other) (tree : ParseTree Atom tightness) :
    (tree.map rename).marks = tree.marks.map (Mark.map rename) := by
  induction tree with
  | atom name => rfl
  | group inner ih | not inner ih | ofNegand inner ih | ofConjunct inner ih =>
      simp [map, marks, ih, Mark.map]
  | and left right leftIh rightIh | or left right leftIh rightIh =>
      simp [map, marks, leftIh, rightIh, Mark.map]

theorem formula_map (rename : Atom → Other) (tree : ParseTree Atom tightness) :
    (tree.map rename).formula = tree.formula.map rename := by
  induction tree with
  | atom name => rfl
  | group inner ih | ofNegand inner ih | ofConjunct inner ih => exact ih
  | not operand ih => simp only [map, formula, ih, Formula.map]
  | and left right leftIh rightIh | or left right leftIh rightIh =>
      simp only [map, formula, leftIh, rightIh, Formula.map]

theorem marks_ne_nil (tree : ParseTree Atom tightness) : tree.marks ≠ [] := by
  induction tree with
  | atom name | group inner | not operand => simp [marks]
  | ofNegand operand ih | ofConjunct operand ih => exact ih
  | and left right leftIh rightIh | or left right leftIh rightIh => simp [marks]

theorem formula_of_marks {tree : ParseTree Atom tightness} {name : Atom}
    (single : tree.marks = [.atom name]) : tree.formula = .atom name := by
  induction tree with
  | atom other =>
      cases single
      rfl
  | group inner | not operand => simp [marks] at single
  | ofNegand operand ih | ofConjunct operand ih => exact ih single
  | and left right | or left right =>
      rw [marks, List.append_eq_singleton_iff] at single
      simp [marks_ne_nil] at single

theorem filterMap_marks (tree : ParseTree Atom tightness) :
    tree.marks.filterMap Mark.atom? = tree.formula.atoms := by
  induction tree with
  | atom name => rfl
  | group inner ih | not inner ih | ofNegand inner ih | ofConjunct inner ih =>
      simpa [marks, formula, Formula.atoms, List.filterMap_append, List.filterMap_cons,
        Mark.atom?] using ih
  | and left right leftIh rightIh | or left right leftIh rightIh =>
      simp [marks, formula, Formula.atoms, leftIh, rightIh, List.filterMap_cons, Mark.atom?]

theorem takesTurns_append (tree : ParseTree Atom tightness) (rest : List (Mark Atom)) :
    Mark.TakesTurns true (tree.marks ++ rest) ↔ Mark.TakesTurns false rest := by
  induction tree generalizing rest with
  | atom name => simp [marks, Mark.TakesTurns, Mark.startsOperand, Mark.endsOperand]
  | group inner ih => simp [marks, Mark.TakesTurns, Mark.startsOperand, Mark.endsOperand, ih]
  | not operand ih => simp [marks, Mark.TakesTurns, Mark.startsOperand, Mark.endsOperand, ih]
  | ofNegand operand ih | ofConjunct operand ih => exact ih rest
  | and left right leftIh rightIh | or left right leftIh rightIh =>
      simp [marks, Mark.TakesTurns, Mark.startsOperand, Mark.endsOperand, leftIh, rightIh]

theorem takesTurns (tree : ParseTree Atom tightness) : Mark.TakesTurns true tree.marks := by
  have turns := (tree.takesTurns_append []).mpr rfl
  rwa [List.append_nil] at turns

end ParseTree

end EventFilter
