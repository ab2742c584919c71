import EventFilter.Formula.Evaluation
import EventFilter.Proofs.Postorder.Context
import EventFilter.Proofs.Postorder.Step

/-!
The conversion to post-order reads the infix grammar.

The state of the conversion after a prefix is a view of the `Reading` of this prefix: the output
is the post-order of the operands that are complete, and the pending entries are the steps from the
open place out to the whole expression.
-/

namespace EventFilter.Postorder

namespace Context

def output {tightness : Tightness} : Context tightness → List Token
  | whole => []
  | group _ outer => outer.output
  | not outer => outer.output
  | ofNegand outer => outer.output
  | and left outer => outer.output ++ left.formula.postorder
  | ofConjunct outer => outer.output
  | or left outer => outer.output ++ left.formula.postorder

def pending {tightness : Tightness} : Context tightness → List Pending
  | whole => []
  | group position outer => .group position :: outer.pending
  | not outer => .connective .not :: outer.pending
  | ofNegand outer => outer.pending
  | and _ outer => .connective .and :: outer.pending
  | ofConjunct outer => outer.pending
  | or _ outer => .connective .or :: outer.pending

def complete {tightness : Tightness} (context : Context tightness)
    (operand : ParseTree Int tightness) : Progress :=
  ⟨(context.output ++ operand.formula.postorder).reverse, context.pending, false⟩

@[simp] theorem output_leftmost {tightness : Tightness} (context : Context tightness) :
    context.leftmost.output = context.output := by
  cases tightness <;> rfl

@[simp] theorem pending_leftmost {tightness : Tightness} (context : Context tightness) :
    context.leftmost.pending = context.pending := by
  cases tightness <;> rfl

end Context

def Reading.progress : Reading → Progress
  | before context => ⟨context.output.reverse, context.pending, true⟩
  | after context operand => context.complete operand

namespace Progress

theorem release_connective {isReleased : Pending → Bool} {operator : Connective}
    (released : isReleased (.connective operator) = true) (output : List Token)
    (pending : List Pending) (expectsOperand : Bool) :
    (Progress.mk output (.connective operator :: pending) expectsOperand).release isReleased =
      (Progress.mk (.connective operator :: output) pending expectsOperand).release
        isReleased := by
  simp [release, released, Pending.token]

theorem release_conjunct {isReleased : Pending → Bool}
    (releasesNot : isReleased (.connective .not) = true)
    (releasesAnd : isReleased (.connective .and) = true)
    (context : Context .negand) (operand : ParseTree Int .negand) :
    (context.complete operand).release isReleased =
      ((context.conjunct operand).1.complete (context.conjunct operand).2).release
        isReleased := by
  fun_induction Context.conjunct context operand with
  | case1 outer operand ih =>
      rw [← ih, Context.complete, Context.pending, release_connective releasesNot]
      simp [Context.complete, Context.output, ParseTree.formula, Formula.postorder]
  | case2 outer operand => rfl
  | case3 left outer right =>
      rw [Context.complete, Context.pending, release_connective releasesAnd]
      simp [Context.complete, Context.output, ParseTree.formula, Formula.postorder]

theorem release_alternatives {isReleased : Pending → Bool}
    (releasesOr : isReleased (.connective .or) = true)
    (context : Context .conjunct) (operand : ParseTree Int .conjunct) :
    (context.complete operand).release isReleased =
      ((context.alternatives operand).1.complete (context.alternatives operand).2).release
        isReleased := by
  cases context with
  | ofConjunct outer => rfl
  | or left outer =>
      rw [Context.complete, Context.pending, release_connective releasesOr]
      simp [Context.complete, Context.output, Context.alternatives, ParseTree.formula,
        Formula.postorder]

theorem release_loose {isReleased : Pending → Bool}
    (keepsGroup : ∀ position, isReleased (.group position) = false)
    (context : Context .loose) (tree : ParseTree Int .loose) :
    (context.complete tree).release isReleased = context.complete tree := by
  cases context <;> simp [release, Context.complete, Context.pending, keepsGroup]

theorem release_before_and (context : Context .negand) (operand : ParseTree Int .negand) :
    (context.complete operand).release (Pending.goesBefore .and) =
      (context.conjunct operand).1.complete (context.conjunct operand).2 := by
  rw [release_conjunct rfl rfl]
  generalize context.conjunct operand = ended
  obtain ⟨outer, tree⟩ := ended
  cases outer with
  | ofConjunct outer => exact release_loose (fun _ => rfl) outer (.ofConjunct tree)
  | or left outer => rfl

theorem release_innermost {isReleased : Pending → Bool}
    (releasesConnective : ∀ operator, isReleased (.connective operator) = true)
    (keepsGroup : ∀ position, isReleased (.group position) = false)
    (context : Context .negand) (operand : ParseTree Int .negand) :
    (context.complete operand).release isReleased =
      (Reading.innermost context operand).1.complete (Reading.innermost context operand).2 := by
  rw [release_conjunct (releasesConnective .not) (releasesConnective .and),
    release_alternatives (releasesConnective .or), release_loose keepsGroup]
  rfl

theorem release_before_or (context : Context .negand) (operand : ParseTree Int .negand) :
    (context.complete operand).release (Pending.goesBefore .or) =
      (Reading.innermost context operand).1.complete (Reading.innermost context operand).2 :=
  release_innermost (fun operator => by cases operator <;> rfl) (fun _ => rfl) context operand

theorem release_connectives (context : Context .negand) (operand : ParseTree Int .negand) :
    (context.complete operand).release Pending.isConnective =
      (Reading.innermost context operand).1.complete (Reading.innermost context operand).2 :=
  release_innermost (fun _ => rfl) (fun _ => rfl) context operand

theorem step_binary {operator : Connective} (binary : operator ≠ .not) (expression : Text)
    (context : Context .negand) (operand : ParseTree Int .negand) (position : Nat) :
    step expression (context.complete operand) ⟨.connective operator, position⟩ =
      .ok (((context.complete operand).release (Pending.goesBefore operator)).push
        (.connective operator)) := by
  cases operator with
  | not => exact absurd rfl binary
  | and | or => rfl

theorem toOption_step (expression : Text) (reading : Reading) (placed : Placed) :
    (step expression reading.progress placed).toOption =
      (reading.advance placed).map Reading.progress := by
  obtain ⟨token, position⟩ := placed
  cases reading with
  | before context =>
      cases token with
      | symbol index => simp [step, startsOperand, take, Reading.advance, Reading.progress,
          Context.complete, ParseTree.formula, Formula.postorder, Except.toOption]
      | connective operator =>
          cases operator <;> simp [step, startsOperand, take, Reading.advance, Reading.progress,
            push, Context.pending, Context.output, Symbolic.fail, Except.toOption]
      | openGroup => simp [step, startsOperand, take, Reading.advance, Reading.progress, push,
          Context.pending, Context.output, Except.toOption]
      | closeGroup | other => rfl
  | after context operand =>
      cases token with
      | symbol | openGroup | other => rfl
      | connective operator =>
          cases operator with
          | not => rfl
          | and =>
              rw [Reading.progress, step_binary (by decide), release_before_and]
              rfl
          | or =>
              rw [Reading.progress, step_binary (by decide), release_before_or]
              rfl
      | closeGroup =>
          have taken : step expression (context.complete operand) ⟨.closeGroup, position⟩ =
              (context.complete operand).closeGroup expression position := rfl
          rw [Reading.progress, taken, closeGroup, release_connectives]
          simp only [Reading.advance]
          generalize Reading.innermost context operand = ended
          obtain ⟨outer, inner⟩ := ended
          cases outer <;> rfl

theorem toOption_run (expression : Text) (reading : Reading) (placed : List Placed) :
    (placed.foldlM (step expression) reading.progress).toOption =
      (placed.foldlM Reading.advance reading).map Reading.progress := by
  induction placed generalizing reading with
  | nil => rfl
  | cons first rest ih =>
      have taken := toOption_step expression reading first
      rw [List.foldlM_cons, List.foldlM_cons]
      cases advanced : reading.advance first with
      | none =>
          rw [advanced] at taken
          cases stepped : step expression reading.progress first with
          | error fault => rfl
          | ok next => simp [stepped, Except.toOption] at taken
      | some next =>
          rw [advanced] at taken
          cases stepped : step expression reading.progress first with
          | error fault => simp [stepped, Except.toOption] at taken
          | ok progress =>
              have same : progress = next.progress := by
                simpa [stepped, Except.toOption] using taken
              subst same
              exact ih next

theorem toOption_finish (expression : Text) (reading : Reading) :
    (finish expression reading.progress).toOption =
      reading.tree?.map fun tree => tree.formula.postorder := by
  cases reading with
  | before context => rfl
  | after context operand =>
      have opened := groups_release Pending.isConnective (fun _ => rfl)
        (context.complete operand)
      have expects : (context.complete operand).expectsOperand = false := rfl
      rw [release_connectives] at opened
      rw [Reading.progress, finish_eq, expects, if_neg Bool.false_ne_true, ← opened,
        release_connectives]
      simp only [Reading.tree?]
      generalize Reading.innermost context operand = ended
      obtain ⟨outer, tree⟩ := ended
      cases outer with
      | whole => simp [Context.complete, groups, Context.pending, Context.output, Except.toOption]
      | group position outer => rfl

end Progress

theorem toOption_ofPlaced (expression : Text) (placed : List Placed) :
    (ofPlaced expression placed).toOption =
      ((placed.foldlM Reading.advance Reading.start).bind Reading.tree?).map
        fun tree => tree.formula.postorder := by
  have run := Progress.toOption_run expression Reading.start placed
  have start : Reading.start.progress = Progress.start := rfl
  rw [start] at run
  rw [ofPlaced]
  cases found : placed.foldlM (Progress.step expression) Progress.start with
  | error fault =>
      rw [found] at run
      rw [Option.map_eq_none_iff.mp run.symm]
      rfl
  | ok progress =>
      rw [found] at run
      obtain ⟨reading, read, rfl⟩ := Option.map_eq_some_iff.mp run.symm
      rw [read]
      exact Progress.toOption_finish expression reading

theorem ofPlaced_eq_ok_iff (expression : Text) (placed : List Placed) (output : List Token) :
    ofPlaced expression placed = .ok output ↔
      ∃ tree : ParseTree Int .loose,
        tree.tokens = placed.map Placed.token ∧ tree.formula.postorder = output := by
  have converted := toOption_ofPlaced expression placed
  constructor
  · intro found
    rw [found] at converted
    obtain ⟨tree, read, same⟩ := Option.map_eq_some_iff.mp converted.symm
    exact ⟨tree, ((Reading.run_start_iff placed tree).mp read).symm, same⟩
  · rintro ⟨tree, written, rfl⟩
    rw [(Reading.run_start_iff placed tree).mpr written.symm] at converted
    cases found : ofPlaced expression placed with
    | error fault => simp [found, Except.toOption] at converted
    | ok other => simpa [found, Except.toOption] using converted

theorem check_of_ofPlaced {expression : Text} {placed : List Placed} {output : List Token}
    (converted : ofPlaced expression placed = .ok output) : check output = .ok () := by
  obtain ⟨tree, _, rfl⟩ := (ofPlaced_eq_ok_iff expression placed output).mp converted
  exact check_postorder tree.formula

theorem eq_of_tokens_eq {tree other : ParseTree Int .loose} (same : other.tokens = tree.tokens) :
    other = tree := by
  let placed := tree.tokens.map fun token => Placed.mk token 0
  have written : placed.map Placed.token = tree.tokens := by
    simp [placed, Function.comp_def]
  have first := (Reading.run_start_iff placed tree).mpr written
  have second := (Reading.run_start_iff placed other).mpr (written.trans same.symm)
  rw [first] at second
  exact (Option.some.inj second).symm

theorem postorder_perm {tightness : Tightness} (tree : ParseTree Int tightness) :
    tree.formula.postorder.Perm (tree.tokens.filter fun token => !token.isParenthesis) := by
  induction tree with
  | atom index => exact .refl _
  | group inner ih => simpa [ParseTree.formula, Token.isParenthesis] using ih
  | ofNegand operand ih | ofConjunct operand ih => exact ih
  | not operand ih =>
      have moved := List.perm_append_singleton (.connective .not) operand.formula.postorder
      simpa [ParseTree.formula, Formula.postorder, Token.isParenthesis] using
        moved.trans (ih.cons (.connective .not))
  | and left right leftIh rightIh =>
      have moved := List.perm_append_singleton (.connective .and) right.formula.postorder
      simpa [ParseTree.formula, Formula.postorder, Token.isParenthesis] using
        leftIh.append (moved.trans (rightIh.cons (.connective .and)))
  | or left right leftIh rightIh =>
      have moved := List.perm_append_singleton (.connective .or) right.formula.postorder
      simpa [ParseTree.formula, Formula.postorder, Token.isParenthesis] using
        leftIh.append (moved.trans (rightIh.cons (.connective .or)))

theorem filterMap_symbol?_postorder (formula : Formula Int) :
    formula.postorder.filterMap Token.symbol? = formula.atoms := by
  induction formula with
  | atom index => rfl
  | not operand ih =>
      simpa [Formula.postorder, Formula.atoms, List.filterMap_cons, Token.symbol?] using ih
  | and left right leftIh rightIh | or left right leftIh rightIh =>
      simp [Formula.postorder, Formula.atoms, leftIh, rightIh, Token.symbol?]

theorem filterMap_symbol?_tokens {tightness : Tightness} (tree : ParseTree Int tightness) :
    tree.tokens.filterMap Token.symbol? = tree.formula.atoms := by
  have same : Token.symbol? ∘ Mark.token = Mark.atom? := funext Mark.symbol?_token
  rw [ParseTree.tokens, List.filterMap_map, same, ParseTree.filterMap_marks]

theorem map_token_place {tokens : List Token} {positions : List Nat}
    (sameLength : positions.length = tokens.length) :
    (place tokens positions).map Placed.token = tokens := by
  rw [place, List.map_zipWith, ← List.map_uncurry_zip_eq_zipWith]
  exact List.map_fst_zip (by omega)

/-- The conversion accepts exactly the token lists that the infix grammar derives. Such a list has
one parse tree, and the output is the post-order of this tree. -/
theorem ofPlaced_parses (expression : Text) (tokens : List Token) (positions : List Nat)
    (sameLength : positions.length = tokens.length) :
    ((∃ output, ofPlaced expression (place tokens positions) = .ok output) ↔
      ∃ tree : ParseTree Int .loose, tree.tokens = tokens) ∧
    ∀ tree : ParseTree Int .loose, tree.tokens = tokens →
      (∀ other : ParseTree Int .loose, other.tokens = tokens → other = tree) ∧
      ofPlaced expression (place tokens positions) = .ok tree.formula.postorder ∧
      tree.formula.postorder.Perm (tokens.filter fun token => !token.isParenthesis) ∧
      tree.formula.postorder.filterMap Token.symbol? = tokens.filterMap Token.symbol? := by
  have written := map_token_place sameLength
  refine ⟨⟨?_, ?_⟩, ?_⟩
  · rintro ⟨output, found⟩
    obtain ⟨tree, derived, _⟩ := (ofPlaced_eq_ok_iff expression _ output).mp found
    exact ⟨tree, derived.trans written⟩
  · rintro ⟨tree, derived⟩
    exact ⟨_, (ofPlaced_eq_ok_iff expression _ _).mpr ⟨tree, derived.trans written.symm, rfl⟩⟩
  · rintro tree rfl
    refine ⟨fun other same => eq_of_tokens_eq same, ?_, postorder_perm tree, ?_⟩
    · exact (ofPlaced_eq_ok_iff expression _ _).mpr ⟨tree, written.symm, rfl⟩
    · rw [filterMap_symbol?_postorder, filterMap_symbol?_tokens]

theorem ofPlaced_parses_nested_group :
    [0, 1, 3, 4, 5, 7, 8, 9].length = ([.symbol 0, .connective .and, .openGroup, .symbol 1,
      .connective .or, .connective .not, .symbol 2, .closeGroup] : List Token).length ∧
    ofPlaced "0&&(1||!2)".toList (place [.symbol 0, .connective .and, .openGroup, .symbol 1,
      .connective .or, .connective .not, .symbol 2, .closeGroup] [0, 1, 3, 4, 5, 7, 8, 9]) =
      .ok [.symbol 0, .symbol 1, .symbol 2, .connective .not, .connective .or,
        .connective .and] := by
  refine ⟨rfl, ?_⟩
  exact ((ofPlaced_parses _ _ _ rfl).2
    (.ofConjunct (.and (.ofNegand (.atom 0)) (.group
      (.or (.ofConjunct (.ofNegand (.atom 1))) (.ofNegand (.not (.atom 2))))))) rfl).2.1

end EventFilter.Postorder
