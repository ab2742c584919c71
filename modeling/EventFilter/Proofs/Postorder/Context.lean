import EventFilter.Formula.ParseTree
import EventFilter.Symbolic

/-!
Parse trees under construction.

A `Context` is a parse tree with one operand left open, as it is known from the tokens to the left
of the open place. A `Reading` is what a prefix of an expression amounts to: a context, and the
operand in it if it is complete. Reading the tokens of a tree from left to right builds this tree
and no other.
-/

namespace EventFilter.Postorder

inductive Context : Tightness → Type where
  | whole : Context .loose
  | group (position : Nat) (outer : Context .negand) : Context .loose
  | not (outer : Context .negand) : Context .negand
  | ofNegand (outer : Context .conjunct) : Context .negand
  | and (left : ParseTree Int .conjunct) (outer : Context .conjunct) : Context .negand
  | ofConjunct (outer : Context .loose) : Context .conjunct
  | or (left : ParseTree Int .loose) (outer : Context .loose) : Context .conjunct

namespace Context

def tokens {tightness : Tightness} : Context tightness → List Token
  | whole => []
  | group _ outer => outer.tokens ++ [.openGroup]
  | not outer => outer.tokens ++ [.connective .not]
  | ofNegand outer => outer.tokens
  | and left outer => outer.tokens ++ left.tokens ++ [.connective .and]
  | ofConjunct outer => outer.tokens
  | or left outer => outer.tokens ++ left.tokens ++ [.connective .or]

def leftmost : {tightness : Tightness} → Context tightness → Context .negand
  | .negand, context => context
  | .conjunct, context => ofNegand context
  | .loose, context => ofNegand (ofConjunct context)

/-- The conjunct that a complete operand ends, as far as it has been read. -/
def conjunct : Context .negand → ParseTree Int .negand →
    Context .conjunct × ParseTree Int .conjunct
  | not outer, operand => outer.conjunct (.not operand)
  | ofNegand outer, operand => (outer, .ofNegand operand)
  | and left outer, right => (outer, .and left right)

def alternatives : Context .conjunct → ParseTree Int .conjunct →
    Context .loose × ParseTree Int .loose
  | ofConjunct outer, operand => (outer, .ofConjunct operand)
  | or left outer, right => (outer, .or left right)

@[simp] theorem conjunct_not (outer : Context .negand) (operand : ParseTree Int .negand) :
    (not outer).conjunct operand = outer.conjunct (.not operand) := by
  rw [conjunct]

@[simp] theorem conjunct_ofNegand (outer : Context .conjunct) (operand : ParseTree Int .negand) :
    (ofNegand outer).conjunct operand = (outer, .ofNegand operand) := by
  rw [conjunct]

@[simp] theorem conjunct_and (left : ParseTree Int .conjunct) (outer : Context .conjunct)
    (right : ParseTree Int .negand) :
    (and left outer).conjunct right = (outer, .and left right) := by
  rw [conjunct]

@[simp] theorem leftmost_negand (context : Context .negand) : context.leftmost = context := rfl

@[simp] theorem tokens_leftmost {tightness : Tightness} (context : Context tightness) :
    context.leftmost.tokens = context.tokens := by
  cases tightness <;> rfl

end Context

inductive Reading where
  | before (context : Context .negand)
  | after (context : Context .negand) (operand : ParseTree Int .negand)

namespace Reading

def start : Reading := before Context.whole.leftmost

def tokens : Reading → List Token
  | before context => context.tokens
  | after context operand => context.tokens ++ operand.tokens

def innermost (context : Context .negand) (operand : ParseTree Int .negand) :
    Context .loose × ParseTree Int .loose :=
  (context.conjunct operand).1.alternatives (context.conjunct operand).2

def advance (reading : Reading) (placed : Placed) : Option Reading :=
  match reading, placed.token with
  | before context, .symbol index => some (after context (.atom index))
  | before context, .openGroup =>
    some (before (Context.group placed.position context).leftmost)
  | before context, .connective .not => some (before (.not context))
  | after context operand, .connective .and =>
    some (before (.and (context.conjunct operand).2 (context.conjunct operand).1))
  | after context operand, .connective .or =>
    some (before (Context.or (innermost context operand).2
      (innermost context operand).1).leftmost)
  | after context operand, .closeGroup =>
    match innermost context operand with
    | (.group _ outer, inner) => some (after outer (.group inner))
    | (.whole, _) => none
  | _, _ => none

def tree? : Reading → Option (ParseTree Int .loose)
  | before _ => none
  | after context operand =>
    match innermost context operand with
    | (.whole, tree) => some tree
    | (.group _ _, _) => none

def fill {tightness : Tightness} : ParseTree Int tightness → Context tightness → Reading
  | .atom index, context => after context (.atom index)
  | .group inner, context => after context (.group inner)
  | .not operand, context => fill operand (.not context)
  | .ofNegand operand, context => fill operand (.ofNegand context)
  | .and left right, context => fill right (.and left context)
  | .ofConjunct operand, context => fill operand (.ofConjunct context)
  | .or left right, context => fill right (.or left context)

theorem tokens_conjunct (context : Context .negand) (operand : ParseTree Int .negand) :
    (context.conjunct operand).1.tokens ++ (context.conjunct operand).2.tokens =
      context.tokens ++ operand.tokens := by
  fun_induction Context.conjunct context operand with
  | case1 outer operand ih => simpa [Context.tokens] using ih
  | case2 outer operand => simp [Context.tokens]
  | case3 left outer right => simp [Context.tokens]

theorem tokens_alternatives (context : Context .conjunct) (operand : ParseTree Int .conjunct) :
    (context.alternatives operand).1.tokens ++ (context.alternatives operand).2.tokens =
      context.tokens ++ operand.tokens := by
  cases context <;> simp [Context.alternatives, Context.tokens]

theorem tokens_innermost (context : Context .negand) (operand : ParseTree Int .negand) :
    (innermost context operand).1.tokens ++ (innermost context operand).2.tokens =
      context.tokens ++ operand.tokens := by
  rw [innermost, tokens_alternatives, tokens_conjunct]

theorem tokens_advance {reading next : Reading} {placed : Placed}
    (found : advance reading placed = some next) :
    next.tokens = reading.tokens ++ [placed.token] := by
  unfold advance at found
  split at found
  case h_1 context index token =>
      cases found
      simp [tokens, token]
  case h_2 context token =>
      cases found
      simp [tokens, token, Context.tokens]
  case h_3 context token =>
      cases found
      simp [tokens, token, Context.tokens]
  case h_4 context operand token =>
      cases found
      simp [tokens, token, Context.tokens, tokens_conjunct]
  case h_5 context operand token =>
      simp only [Option.some.injEq] at found
      subst found
      simp [tokens, token, Context.tokens, ← tokens_innermost context operand]
  case h_6 context operand token =>
      have total := tokens_innermost context operand
      split at found
      next position outer inner closed =>
        cases found
        rw [closed] at total
        simp [tokens, token, ← total, Context.tokens]
      next => simp at found
  case h_7 => simp at found

theorem tokens_run {reading last : Reading} {placed : List Placed}
    (found : placed.foldlM advance reading = some last) :
    last.tokens = reading.tokens ++ placed.map Placed.token := by
  induction placed generalizing reading with
  | nil =>
      cases found
      simp
  | cons first rest ih =>
      rw [List.foldlM_cons, Option.bind_eq_bind, Option.bind_eq_some_iff] at found
      obtain ⟨next, step, found⟩ := found
      rw [ih found, tokens_advance step]
      simp

theorem tokens_of_tree? {reading : Reading} {tree : ParseTree Int .loose}
    (found : reading.tree? = some tree) : tree.tokens = reading.tokens := by
  unfold tree? at found
  split at found
  · simp at found
  · rename_i context operand
    have total := tokens_innermost context operand
    split at found
    next finished closed =>
      cases found
      rw [closed] at total
      simpa [tokens, Context.tokens] using total
    next => simp at found

theorem fill_negand : (tree : ParseTree Int .negand) → (context : Context .negand) →
    ∃ inner operand, fill tree context = after inner operand ∧
      inner.conjunct operand = context.conjunct tree
  | .atom index, context => ⟨context, .atom index, rfl, rfl⟩
  | .group inner, context => ⟨context, .group inner, rfl, rfl⟩
  | .not operand, context => by
      rw [fill, ← Context.conjunct_not]
      exact fill_negand operand (.not context)

theorem fill_conjunct (tree : ParseTree Int .conjunct) (context : Context .conjunct) :
    ∃ inner operand, fill tree context = after inner operand ∧
      inner.conjunct operand = (context, tree) := by
  cases tree with
  | ofNegand operand =>
      rw [fill, ← Context.conjunct_ofNegand]
      exact fill_negand operand (.ofNegand context)
  | and left right =>
      rw [fill, ← Context.conjunct_and]
      exact fill_negand right (.and left context)

theorem fill_loose (tree : ParseTree Int .loose) (context : Context .loose) :
    ∃ inner operand, fill tree context = after inner operand ∧
      innermost inner operand = (context, tree) := by
  cases tree with
  | ofConjunct operand =>
      obtain ⟨inner, last, filled, ended⟩ := fill_conjunct operand (.ofConjunct context)
      exact ⟨inner, last, filled, by rw [innermost, ended]; rfl⟩
  | or left right =>
      obtain ⟨inner, last, filled, ended⟩ := fill_conjunct right (.or left context)
      exact ⟨inner, last, filled, by rw [innermost, ended]; rfl⟩

theorem run_tree {tightness : Tightness} (tree : ParseTree Int tightness)
    (context : Context tightness) (placed : List Placed)
    (written : placed.map Placed.token = tree.tokens) :
    placed.foldlM advance (before context.leftmost) = some (fill tree context) := by
  -- The context varies: a left operand that is complete becomes part of it.
  induction tree generalizing placed with
  | atom index =>
      rw [ParseTree.tokens_atom, List.map_eq_singleton_iff] at written
      obtain ⟨only, rfl, token⟩ := written
      simp [advance, token, fill]
  | group inner ih =>
      rw [ParseTree.tokens_group, List.cons_append, List.map_eq_cons_iff] at written
      obtain ⟨first, rest, rfl, opens, written⟩ := written
      obtain ⟨middle, last, rfl, innerWritten, closing⟩ := List.map_eq_append_iff.mp written
      obtain ⟨only, rfl, closes⟩ := List.map_eq_singleton_iff.mp closing
      have opened : advance (before context) first =
          some (before (Context.group first.position context).leftmost) := by
        simp only [advance, opens]
      have entered := ih (.group first.position context) middle innerWritten
      obtain ⟨place, operand, filled, ended⟩ := fill_loose inner (.group first.position context)
      have left : advance (after place operand) only = some (after context (.group inner)) := by
        simp only [advance, closes, ended]
      rw [filled] at entered
      simp [List.foldlM_append, opened, entered, left, fill]
  | not operand ih =>
      rw [ParseTree.tokens_not, List.map_eq_cons_iff] at written
      obtain ⟨first, rest, rfl, token, written⟩ := written
      simpa [advance, token, fill] using ih (.not context) rest written
  | ofNegand operand ih => exact ih (.ofNegand context) placed written
  | and left right leftIh rightIh =>
      rw [ParseTree.tokens_and, List.map_eq_append_iff] at written
      obtain ⟨before, rest, rfl, leftWritten, written⟩ := written
      obtain ⟨middle, after, rfl, token, rightWritten⟩ := List.map_eq_cons_iff.mp written
      obtain ⟨place, operand, filled, ended⟩ := fill_conjunct left context
      rw [List.foldlM_append, leftIh context before leftWritten, filled]
      simpa [advance, token, ended, fill] using rightIh (.and left context) after rightWritten
  | ofConjunct operand ih => exact ih (.ofConjunct context) placed written
  | or left right leftIh rightIh =>
      rw [ParseTree.tokens_or, List.map_eq_append_iff] at written
      obtain ⟨before, rest, rfl, leftWritten, written⟩ := written
      obtain ⟨middle, after, rfl, token, rightWritten⟩ := List.map_eq_cons_iff.mp written
      obtain ⟨place, operand, filled, ended⟩ := fill_loose left context
      rw [List.foldlM_append, leftIh context before leftWritten, filled]
      simpa [advance, token, ended, fill] using rightIh (.or left context) after rightWritten

/-- A token list is read as a tree if and only if the tree derives it. -/
theorem run_start_iff (placed : List Placed) (tree : ParseTree Int .loose) :
    (placed.foldlM advance start).bind tree? = some tree ↔
      placed.map Placed.token = tree.tokens := by
  constructor
  · intro found
    obtain ⟨last, run, found⟩ := Option.bind_eq_some_iff.mp found
    rw [tokens_of_tree? found, tokens_run run]
    simp [start, tokens, Context.tokens]
  · intro written
    obtain ⟨inner, operand, filled, ended⟩ := fill_loose tree .whole
    rw [start, run_tree tree .whole placed written, filled]
    simp [tree?, ended]

end Reading

end EventFilter.Postorder
