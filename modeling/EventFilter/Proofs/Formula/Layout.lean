import EventFilter.Formula.ParseTree
import Mathlib.Data.List.Chain

/-!
Layouts: the ways to write a formula as a text.

`Parenthesised` puts parentheses around the operands that bind less tight than their connective,
and around any others at will. A `Layout` spells the tokens, with white space between any two of
them where none is needed as well.
-/

namespace EventFilter

/-- The token lists that a formula can be written as where operands have some tightness. -/
inductive Parenthesised {Atom : Type} : Tightness → Formula Atom → List (Mark Atom) → Prop
  | atom (name : Atom) : Parenthesised .negand (.atom name) [.atom name]
  | group {formula : Formula Atom} {marks : List (Mark Atom)} :
      Parenthesised .loose formula marks →
      Parenthesised .negand formula (.openGroup :: marks ++ [.closeGroup])
  | not {operand : Formula Atom} {marks : List (Mark Atom)} :
      Parenthesised .negand operand marks →
      Parenthesised .negand (.not operand) (.connective .not :: marks)
  | ofNegand {formula : Formula Atom} {marks : List (Mark Atom)} :
      Parenthesised .negand formula marks → Parenthesised .conjunct formula marks
  | and {left right : Formula Atom} {before after : List (Mark Atom)} :
      Parenthesised .conjunct left before → Parenthesised .conjunct right after →
      Parenthesised .conjunct (.and left right) (before ++ .connective .and :: after)
  | ofConjunct {formula : Formula Atom} {marks : List (Mark Atom)} :
      Parenthesised .conjunct formula marks → Parenthesised .loose formula marks
  | or {left right : Formula Atom} {before after : List (Mark Atom)} :
      Parenthesised .loose left before → Parenthesised .loose right after →
      Parenthesised .loose (.or left right) (before ++ .connective .or :: after)

namespace ParseTree

variable {Atom : Type}

def conjoin (left : ParseTree Atom .conjunct) : ParseTree Atom .conjunct → ParseTree Atom .conjunct
  | ofNegand operand => and left operand
  | and first last => and (conjoin left first) last

def disjoin (left : ParseTree Atom .loose) : ParseTree Atom .loose → ParseTree Atom .loose
  | ofConjunct operand => or left operand
  | or first last => or (disjoin left first) last

theorem marks_conjoin (left right : ParseTree Atom .conjunct) :
    (conjoin left right).marks = left.marks ++ .connective .and :: right.marks := by
  fun_induction conjoin left right with
  | case1 operand => rfl
  | case2 first last ih => simp [marks, ih]

theorem atoms_conjoin (left right : ParseTree Atom .conjunct) :
    (conjoin left right).formula.atoms = left.formula.atoms ++ right.formula.atoms := by
  fun_induction conjoin left right with
  | case1 operand => rfl
  | case2 first last ih => simp [formula, Formula.atoms, ih]

theorem value_conjoin (truth : Atom → Bool) (left right : ParseTree Atom .conjunct) :
    (conjoin left right).formula.value truth =
      (left.formula.value truth && right.formula.value truth) := by
  fun_induction conjoin left right with
  | case1 operand => rfl
  | case2 first last ih => simp [formula, Formula.value, ih, Bool.and_assoc]

theorem marks_disjoin (left right : ParseTree Atom .loose) :
    (disjoin left right).marks = left.marks ++ .connective .or :: right.marks := by
  fun_induction disjoin left right with
  | case1 operand => rfl
  | case2 first last ih => simp [marks, ih]

theorem atoms_disjoin (left right : ParseTree Atom .loose) :
    (disjoin left right).formula.atoms = left.formula.atoms ++ right.formula.atoms := by
  fun_induction disjoin left right with
  | case1 operand => rfl
  | case2 first last ih => simp [formula, Formula.atoms, ih]

theorem value_disjoin (truth : Atom → Bool) (left right : ParseTree Atom .loose) :
    (disjoin left right).formula.value truth =
      (left.formula.value truth || right.formula.value truth) := by
  fun_induction disjoin left right with
  | case1 operand => rfl
  | case2 first last ih => simp [formula, Formula.value, ih, Bool.or_assoc]

end ParseTree

theorem Parenthesised.exists_tree {Atom : Type} {tightness : Tightness} {formula : Formula Atom}
    {marks : List (Mark Atom)} (written : Parenthesised tightness formula marks) :
    ∃ tree : ParseTree Atom tightness, tree.marks = marks ∧
      tree.formula.atoms = formula.atoms ∧
      ∀ truth, tree.formula.value truth = formula.value truth := by
  induction written with
  | atom name => exact ⟨.atom name, rfl, rfl, fun truth => rfl⟩
  | group inside ih =>
      obtain ⟨tree, rfl, atoms, value⟩ := ih
      exact ⟨.group tree, rfl, atoms, value⟩
  | not inside ih =>
      obtain ⟨tree, rfl, atoms, value⟩ := ih
      exact ⟨.not tree, rfl, atoms, fun truth => congrArg (!·) (value truth)⟩
  | ofNegand inside ih =>
      obtain ⟨tree, rfl, atoms, value⟩ := ih
      exact ⟨.ofNegand tree, rfl, atoms, value⟩
  | ofConjunct inside ih =>
      obtain ⟨tree, rfl, atoms, value⟩ := ih
      exact ⟨.ofConjunct tree, rfl, atoms, value⟩
  | and left right leftIh rightIh =>
      obtain ⟨first, rfl, firstAtoms, firstValue⟩ := leftIh
      obtain ⟨second, rfl, secondAtoms, secondValue⟩ := rightIh
      refine ⟨first.conjoin second, first.marks_conjoin second, ?_, fun truth => ?_⟩
      · rw [ParseTree.atoms_conjoin, firstAtoms, secondAtoms, Formula.atoms]
      · rw [ParseTree.value_conjoin, firstValue, secondValue, Formula.value]
  | or left right leftIh rightIh =>
      obtain ⟨first, rfl, firstAtoms, firstValue⟩ := leftIh
      obtain ⟨second, rfl, secondAtoms, secondValue⟩ := rightIh
      refine ⟨first.disjoin second, first.marks_disjoin second, ?_, fun truth => ?_⟩
      · rw [ParseTree.atoms_disjoin, firstAtoms, secondAtoms, Formula.atoms]
      · rw [ParseTree.value_disjoin, firstValue, secondValue, Formula.value]

inductive Written where
  | atom (name : Text)
  | symbol (operator : Connective)
  | keyword (operator : Connective) (word : Text)
      (spelled : word.map Char.toLower = operator.keyword)
  | openGroup
  | closeGroup
deriving DecidableEq

namespace Written

def mark : Written → Mark Text
  | atom name => .atom name
  | symbol operator | keyword operator _ _ => .connective operator
  | openGroup => .openGroup
  | closeGroup => .closeGroup

def text : Written → Text
  | atom name => name
  | symbol operator => operator.spelling
  | keyword _ word _ => word
  | openGroup => ['(']
  | closeGroup => [')']

def isKeyword : Written → Bool
  | keyword _ _ _ => true
  | _ => false

def isUnquoted : Written → Bool
  | atom name => name.getLast? != some '"'
  | _ => false

end Written

structure Piece where
  gap : Text
  blank : gap.all Text.isBlank = true
  written : Written

structure Piece.Separated (piece next : Piece) : Prop where
  afterKeyword : piece.written.isKeyword = true →
    next.gap ≠ [] ∨ next.written = .openGroup ∨ next.written = .symbol .not
  beforeKeyword : next.written.isKeyword = true →
    piece.written.isUnquoted = true → next.gap ≠ []

instance (piece next : Piece) : Decidable (piece.Separated next) :=
  decidable_of_iff
    ((piece.written.isKeyword = true →
        next.gap ≠ [] ∨ next.written = .openGroup ∨ next.written = .symbol .not) ∧
      (next.written.isKeyword = true → piece.written.isUnquoted = true → next.gap ≠ []))
    ⟨fun apart => ⟨apart.1, apart.2⟩, fun apart => ⟨apart.afterKeyword, apart.beforeKeyword⟩⟩

/-- Written tokens that do not run into each other, and the white space behind them. -/
structure Layout where
  pieces : List Piece
  separated : pieces.IsChain Piece.Separated
  margin : Text
  blank : margin.all Text.isBlank = true

namespace Layout

def marks (layout : Layout) : List (Mark Text) :=
  layout.pieces.map fun piece => piece.written.mark

def textFrom (following : Text) (pieces : List Piece) : Text :=
  pieces.foldr (fun piece rest => piece.gap ++ (piece.written.text ++ rest)) following

def text (layout : Layout) : Text :=
  textFrom layout.margin layout.pieces

end Layout

end EventFilter
