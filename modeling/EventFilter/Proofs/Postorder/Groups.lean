import EventFilter.Formula.ParseTree
import EventFilter.Symbolic

/-!
Matching parentheses.

A parenthesis `(` is closed by the first `)` with balanced tokens in between. The groups that some
tokens leave open are those of the parentheses that none of these tokens closes.
-/

namespace EventFilter.Postorder

inductive IsBalanced : List Placed → Prop
  | nil : IsBalanced []
  | plain {entry : Placed} {rest : List Placed} :
      entry.token.isParenthesis = false → IsBalanced rest → IsBalanced (entry :: rest)
  | group {opening closing : Placed} {inner rest : List Placed} :
      opening.token = .openGroup → closing.token = .closeGroup → IsBalanced inner →
      IsBalanced rest → IsBalanced (opening :: (inner ++ closing :: rest))

def IsClosed (after : List Placed) : Prop :=
  ∃ inner closing rest, after = inner ++ closing :: rest ∧ closing.token = .closeGroup ∧
    IsBalanced inner

def HasOpenGroup (placed : List Placed) : Prop :=
  ∃ before opening after, placed = before ++ opening :: after ∧ opening.token = .openGroup ∧
    ¬IsClosed after

def IsLastOpen (placed : List Placed) (opening : Placed) : Prop :=
  ∃ before after, placed = before ++ opening :: after ∧ opening.token = .openGroup ∧
    ¬IsClosed after ∧ ¬HasOpenGroup after

/-- How many groups are open behind some tokens, if none is closed that was not opened. -/
def depthBehind : Nat → List Placed → Option Nat
  | depth, [] => some depth
  | depth, entry :: rest =>
    match entry.token, depth with
    | .openGroup, depth => depthBehind (depth + 1) rest
    | .closeGroup, 0 => none
    | .closeGroup, below + 1 => depthBehind below rest
    | _, depth => depthBehind depth rest

section Depth

variable {entry : Placed} {placed rest : List Placed} {depth : Nat}

theorem depthBehind_plain (plain : entry.token.isParenthesis = false) (depth : Nat)
    (rest : List Placed) : depthBehind depth (entry :: rest) = depthBehind depth rest := by
  obtain ⟨token, position⟩ := entry
  cases token with
  | symbol | connective | other => rfl
  | openGroup | closeGroup => cases plain

theorem depthBehind_open (opens : entry.token = .openGroup) (depth : Nat) (rest : List Placed) :
    depthBehind depth (entry :: rest) = depthBehind (depth + 1) rest := by
  simp only [depthBehind, opens]

theorem depthBehind_close (closes : entry.token = .closeGroup) (depth : Nat)
    (rest : List Placed) : depthBehind (depth + 1) (entry :: rest) = depthBehind depth rest := by
  simp only [depthBehind, closes]

theorem IsBalanced.depthBehind_append (balanced : IsBalanced placed) (depth : Nat)
    (rest : List Placed) : depthBehind depth (placed ++ rest) = depthBehind depth rest := by
  induction balanced generalizing depth rest with
  | nil => rfl
  | plain isPlain following ih =>
      rw [List.cons_append, depthBehind_plain isPlain, ih]
  | group opens closes inner following innerIh followingIh =>
      rw [List.cons_append, List.append_assoc, List.cons_append, depthBehind_open opens, innerIh,
        depthBehind_close closes, followingIh]

theorem IsBalanced.not_isClosed (balanced : IsBalanced placed) : ¬IsClosed placed := by
  rintro ⟨inner, closing, rest, rfl, closes, innerBalanced⟩
  have whole := balanced.depthBehind_append 0 []
  rw [List.append_nil, innerBalanced.depthBehind_append] at whole
  simp [depthBehind, closes] at whole

end Depth

section Matching

variable {before after placed more : List Placed} {opening : Placed}

theorem IsBalanced.append {first second : List Placed} (balanced : IsBalanced first)
    (following : IsBalanced second) : IsBalanced (first ++ second) := by
  induction balanced with
  | nil => exact following
  | plain isPlain _ ih => exact .plain isPlain ih
  | group opens closes inner _ _ ih =>
      rw [List.cons_append, List.append_assoc, List.cons_append]
      exact .group opens closes inner ih

theorem IsClosed.append (closed : IsClosed after) (more : List Placed) :
    IsClosed (after ++ more) := by
  obtain ⟨inner, closing, rest, rfl, closes, balanced⟩ := closed
  exact ⟨inner, closing, rest ++ more, by simp, closes, balanced⟩

theorem IsBalanced.isClosed (balanced : IsBalanced placed)
    (split : placed = before ++ opening :: after) (opens : opening.token = .openGroup) :
    IsClosed after := by
  induction balanced generalizing before after with
  | nil => simp at split
  | plain isPlain _ ih =>
      rcases List.cons_eq_append_iff.mp split with ⟨rfl, same⟩ | ⟨earlier, rfl, same⟩
      · cases same
        simp [opens, Token.isParenthesis] at isPlain
      · exact ih same
  | @group first closing inner rest firstOpens closes innerBalanced _ innerIh restIh =>
      rcases List.cons_eq_append_iff.mp split with ⟨rfl, same⟩ | ⟨earlier, rfl, same⟩
      · cases same
        exact ⟨inner, closing, rest, rfl, closes, innerBalanced⟩
      -- The parenthesis stands behind the first group or inside of it.
      · rcases List.append_eq_append_iff.mp same with ⟨between, rfl, tail⟩ | ⟨between, rfl, tail⟩
        · rcases List.cons_eq_append_iff.mp tail with ⟨rfl, here⟩ | ⟨middle, rfl, later⟩
          · cases here
            rw [closes] at opens
            cases opens
          · exact restIh later
        · rcases List.cons_eq_append_iff.mp tail with ⟨rfl, here⟩ | ⟨middle, rfl, later⟩
          · cases here
            rw [closes] at opens
            cases opens
          · rw [later]
            exact (innerIh rfl).append _

theorem IsBalanced.not_hasOpenGroup (balanced : IsBalanced placed) : ¬HasOpenGroup placed := by
  rintro ⟨before, opening, after, split, opens, unclosed⟩
  exact unclosed (balanced.isClosed split opens)

end Matching

/-- The positions of the groups that some tokens leave open, the innermost first. -/
inductive LeavesOpen : List Placed → List Nat → Prop
  | nothing {placed : List Placed} : IsBalanced placed → LeavesOpen placed []
  | group {before inner : List Placed} {opening : Placed} {outer : List Nat} :
      LeavesOpen before outer → opening.token = .openGroup → IsBalanced inner →
      LeavesOpen (before ++ opening :: inner) (opening.position :: outer)

namespace LeavesOpen

variable {placed : List Placed} {entry : Placed} {groups : List Nat} {position : Nat}

theorem append (leaves : LeavesOpen placed groups) {more : List Placed}
    (balanced : IsBalanced more) : LeavesOpen (placed ++ more) groups := by
  cases leaves with
  | nothing before => exact .nothing (before.append balanced)
  | group outside opens inner =>
      rw [List.append_assoc, List.cons_append]
      exact .group outside opens (inner.append balanced)

theorem opened (leaves : LeavesOpen placed groups) (opens : entry.token = .openGroup) :
    LeavesOpen (placed ++ [entry]) (entry.position :: groups) :=
  .group leaves opens .nil

theorem closed (leaves : LeavesOpen placed (position :: groups))
    (closes : entry.token = .closeGroup) : LeavesOpen (placed ++ [entry]) groups := by
  cases leaves with
  | group outside opens inner =>
      rw [List.append_assoc]
      exact outside.append (.group opens closes inner .nil)

theorem not_hasOpenGroup (leaves : LeavesOpen placed []) : ¬HasOpenGroup placed := by
  cases leaves with
  | nothing balanced => exact balanced.not_hasOpenGroup

theorem exists_isLastOpen (leaves : LeavesOpen placed (position :: groups)) :
    ∃ opening, IsLastOpen placed opening ∧ opening.position = position := by
  cases leaves with
  | @group before inner opening outer outside opens balanced =>
      exact ⟨opening, ⟨before, inner, rfl, opens, balanced.not_isClosed,
        balanced.not_hasOpenGroup⟩, rfl⟩

end LeavesOpen

end EventFilter.Postorder
