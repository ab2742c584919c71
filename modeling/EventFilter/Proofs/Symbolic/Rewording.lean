import EventFilter.Proofs.Span.Rewording
import EventFilter.Proofs.Symbolic.Faults

/-!
Expressions that are written in another way.

White space may be inserted before, between and behind the tokens of an expression, and all its
connectives may be written as symbols. The expression keeps its tokens and its predicates, and one
that has symbols only is read alike with keywords and without.
-/

namespace EventFilter

namespace Text

variable {inserted : Nat → Text} {offset : Nat} {written rest : Text}

def insertFrom (inserted : Nat → Text) (offset : Nat) : Text → Text
  | [] => inserted offset
  | first :: rest => inserted offset ++ first :: insertFrom inserted (offset + 1) rest

/-- The text with `inserted index` put in front of the character at each index, and the last one
behind all of them. -/
def insert (inserted : Nat → Text) (text : Text) : Text :=
  insertFrom inserted 0 text

theorem insertFrom_append (present : written ≠ [])
    (whole : ∀ index, offset < index → index < offset + written.length → inserted index = []) :
    insertFrom inserted offset (written ++ rest) =
      inserted offset ++ (written ++ insertFrom inserted (offset + written.length) rest) := by
  induction written generalizing offset with
  | nil => cases present rfl
  | cons first others ih =>
      cases others with
      | nil => rfl
      | cons second others =>
          have wholeBehind : ∀ index, offset + 1 < index →
              index < offset + 1 + (second :: others).length → inserted index = [] := by
            intro index after before
            refine whole index (by omega) ?_
            rw [List.length_cons]
            omega
          have nothing : inserted (offset + 1) = [] :=
            whole (offset + 1) (by omega) (by simp)
          have behind := ih (List.cons_ne_nil second others) wholeBehind
          rw [nothing, List.nil_append] at behind
          rw [List.cons_append, insertFrom, behind, List.length_cons, Nat.add_right_comm,
            Nat.add_assoc]
          rfl

end Text

def Span.spelling (span : Span) : Text :=
  span.lexeme.spelled span.text

namespace Spans

def respellFrom (offset : Nat) (text : Text) : List Span → Text
  | [] => text
  | span :: rest =>
    let stop := span.start + span.text.length
    text.take (span.start - offset) ++
      (span.spelling ++ respellFrom stop (text.drop (stop - offset)) rest)

/-- The expression with a symbol in place of each of its keywords. -/
def withSymbols (expression : Text) : Text :=
  respellFrom 0 expression (ofText .standard true expression).spans

variable {keywords : Bool} {offset : Nat} {text : Text} {found : Spans} {inserted : Nat → Text}

theorem Located.le_start {Effect : Type → Type} {Item : Type} {kind : PredicateKind Effect Item}
    (located : Located kind keywords offset text found) :
    ∀ span ∈ found.spans, offset ≤ span.start := by
  induction located with
  | nil | unrecognised => exact List.forall_mem_nil _
  | blank isBlank located ih => exact fun span inside => Nat.le_of_succ_le (ih span inside)
  | token begins visible located ih =>
      refine List.forall_mem_cons.mpr ⟨Nat.le_refl _, fun span inside => ?_⟩
      exact Nat.le_trans (Nat.le_add_right _ _) (ih span inside)

theorem respellFrom_cons {first : Char} {rest : Text} {spans : List Span}
    (behind : ∀ span ∈ spans, offset + 1 ≤ span.start) :
    respellFrom offset (first :: rest) spans = first :: respellFrom (offset + 1) rest spans := by
  cases spans with
  | nil => rfl
  | cons span others =>
      have after := behind span List.mem_cons_self
      have start : span.start - offset = span.start - (offset + 1) + 1 := by omega
      have stop : span.start + span.text.length - offset =
          span.start + span.text.length - (offset + 1) + 1 := by omega
      simp only [respellFrom, start, stop, List.take_succ_cons, List.drop_succ_cons,
        List.cons_append]

theorem Located.rewords_insertFrom (located : Located .standard true offset text found)
    (recognised : found.unrecognised = none)
    (blank : ∀ index, (inserted index).all Text.isBlank = true)
    (between : ∀ span ∈ found.spans, ∀ index, span.start < index →
      index < span.start + span.text.length → inserted index = []) :
    Rewords true text (Text.insertFrom inserted offset text) (found.spans.map Span.mark) := by
  induction located with
  | nil =>
      rw [Text.insertFrom, ← List.append_nil (inserted _)]
      exact Rewords.nil.spaces (blank _)
  | blank isBlank located ih =>
      exact Rewords.spaces (blank _) (.blank isBlank (ih recognised between))
  | unrecognised => cases recognised
  | token begins visible located ih =>
      have present := (begins.isWritten PredicateKind.isSound_standard).ne_nil
      obtain ⟨here, behind⟩ := List.forall_mem_cons.mp between
      rw [Text.insertFrom_append present here]
      exact Rewords.spaces (blank _) (.token begins (.inr ⟨rfl, rfl⟩) (ih recognised behind))

theorem Located.rewords_respellFrom (located : Located .standard true offset text found)
    (recognised : found.unrecognised = none) (keywords : Bool) :
    Rewords keywords text (respellFrom offset text found.spans) (found.spans.map Span.mark) := by
  induction located with
  | nil => exact .nil
  | blank isBlank located ih =>
      rw [respellFrom_cons located.le_start]
      exact .blank isBlank (ih recognised)
  | unrecognised => cases recognised
  | token begins visible located ih =>
      simp only [respellFrom, Nat.sub_self, Nat.add_sub_cancel_left, List.take_zero,
        List.drop_left, List.nil_append, List.map_cons]
      exact .token begins (.inl rfl) (ih recognised)

end Spans

variable {keywords : Bool} {expression : Text} {marks : List (Mark Text)}

theorem Reads.insert {inserted : Nat → Text} (reads : Reads .standard true expression marks)
    (blank : ∀ index, (inserted index).all Text.isBlank = true)
    (between : ∀ span ∈ (Spans.ofText .standard true expression).spans, ∀ index,
      span.start < index → index < span.start + span.text.length → inserted index = []) :
    Reads .standard true (expression.insert inserted) marks := by
  obtain ⟨recognised, rfl⟩ := (Reads.iff_ofText expression marks).mp reads
  have located := Spans.located_ofText PredicateKind.isSound_standard true expression
  exact (located.rewords_insertFrom recognised blank between).readsOther

theorem Reads.withSymbols (reads : Reads .standard true expression marks) :
    Reads .standard keywords (Spans.withSymbols expression) marks := by
  obtain ⟨recognised, rfl⟩ := (Reads.iff_ofText expression marks).mp reads
  have located := Spans.located_ofText PredicateKind.isSound_standard true expression
  exact (located.rewords_respellFrom recognised keywords).readsOther

namespace Symbolic

theorem IsNumbering.unique {Effect : Type → Type} {Item : Type} {kind : PredicateKind Effect Item}
    {first second : Symbolic Item} (isNumbering : IsNumbering kind [] marks first)
    (again : IsNumbering kind [] marks second) :
    first.items = second.items ∧ first.tokens = second.tokens := by
  let built (name : Text) : Text × Except Fault Item := (name, kind.build name)
  let tagged (item : Text × Item) : Text × Except Fault Item := (item.1, .ok item.2)
  have items : first.items = second.items := by
    have injective : ∀ one two : Text × Item, tagged one = tagged two → one = two := by
      rintro ⟨name, item⟩ ⟨other, otherItem⟩ same
      cases same
      rfl
    apply (List.map_inj_right injective).mp
    calc
      first.items.map tagged = (first.items.map Prod.fst).map built := by
        rw [List.map_map]
        exact List.map_congr_left fun item inside =>
          Prod.ext rfl (isNumbering.build item inside).symm
      _ = (second.items.map Prod.fst).map built := by
        rw [isNumbering.map_fst_items, again.map_fst_items]
      _ = second.items.map tagged := by
        rw [List.map_map]
        exact List.map_congr_left fun item inside => Prod.ext rfl (again.build item inside)
  exact ⟨items, by rw [isNumbering.tokens, again.tokens, items]⟩

theorem ofText_of_reads {symbolic : Symbolic Predicate} {other : Text}
    (isNumbering : IsNumbering .standard [] marks symbolic)
    (reads : Reads .standard keywords other marks) :
    ∃ again, ofText ⟨.standard, none⟩ keywords other = .ok again ∧
      again.tokens = symbolic.tokens ∧ again.items = symbolic.items := by
  let unbounded : Numbering (Except Fault) Predicate := ⟨.standard, none⟩
  have readsUnbounded : Reads unbounded.kind keywords other marks := reads
  obtain ⟨again, numbered, isNumberingAgain⟩ :=
    exists_ofText readsUnbounded isNumbering.buildable (by rintro _ ⟨⟩)
  obtain ⟨items, tokens⟩ := isNumberingAgain.unique isNumbering
  exact ⟨again, numbered, tokens, items⟩

/-- White space that is inserted outside of the tokens of an expression changes neither its tokens
nor its predicates. If all connectives are written as symbols besides, the expression keeps them
even where keywords are not read. -/
theorem ofText_reworded {symbolic : Symbolic Predicate} {inserted : Nat → Text}
    (primed : ofText ⟨.standard, none⟩ true expression = .ok symbolic)
    (blank : ∀ index, (inserted index).all Text.isBlank = true)
    (between : ∀ span ∈ (Spans.ofText .standard true expression).spans, ∀ index,
      span.start < index → index < span.start + span.text.length → inserted index = []) :
    (∃ spaced, ofText ⟨.standard, none⟩ true (expression.insert inserted) = .ok spaced ∧
      spaced.tokens = symbolic.tokens ∧ spaced.items = symbolic.items) ∧
    ∀ keywords, ∃ respelled,
      ofText ⟨.standard, none⟩ keywords (Spans.withSymbols (expression.insert inserted)) =
          .ok respelled ∧
        respelled.tokens = symbolic.tokens ∧ respelled.items = symbolic.items := by
  obtain ⟨marks, reads, isNumbering⟩ := reads_of_ofText primed
  have spaced := reads.insert blank between
  exact ⟨ofText_of_reads isNumbering spaced,
    fun keywords => ofText_of_reads isNumbering spaced.withSymbols⟩

theorem ofText_reworded_touching :
    ∃ symbolic inserted,
      ofText ⟨.standard, none⟩ true "A==\"x\"and(B>=)NOT".toList = .ok symbolic ∧
      symbolic.tokens = [.symbol 0, .connective .and, .openGroup, .symbol 1, .closeGroup,
        .connective .not] ∧
      Text.insert inserted "A==\"x\"and(B>=)NOT".toList = " A==\"x\" and(B>= )NOT ".toList ∧
      Spans.withSymbols " A==\"x\" and(B>= )NOT ".toList = " A==\"x\" &&(B>= )! ".toList ∧
      ∃ respelled,
        ofText ⟨.standard, none⟩ false " A==\"x\" &&(B>= )! ".toList = .ok respelled ∧
          respelled.tokens = symbolic.tokens ∧ respelled.items = symbolic.items := by
  have spans : Spans.ofText .standard true "A==\"x\"and(B>=)NOT".toList =
      ⟨[⟨0, .predicate, "A==\"x\"".toList⟩, ⟨6, .connective .and, "and".toList⟩,
        ⟨9, .openGroup, ['(']⟩, ⟨10, .predicate, "B>=".toList⟩, ⟨13, .closeGroup, [')']⟩,
        ⟨14, .connective .not, "NOT".toList⟩], none⟩ := by
    decide +kernel
  obtain ⟨symbolic, primed, tokens⟩ : ∃ symbolic,
      ofText ⟨.standard, none⟩ true "A==\"x\"and(B>=)NOT".toList = .ok symbolic ∧
        symbolic.tokens = [.symbol 0, .connective .and, .openGroup, .symbol 1, .closeGroup,
          .connective .not] := by
    rw [ofText, spans]
    exact ⟨_, rfl, rfl⟩
  let inserted (index : Nat) : Text := if index ∈ [0, 6, 13, 17] then [' '] else []
  have blank : ∀ index, (inserted index).all Text.isBlank = true := by
    intro index
    simp only [inserted]
    split <;> rfl
  have apart : ∀ span ∈ (Spans.ofText .standard true "A==\"x\"and(B>=)NOT".toList).spans,
      ∀ index ∈ [0, 6, 13, 17], span.start < index →
        ¬index < span.start + span.text.length := by
    rw [spans]
    decide
  have spaced : Text.insert inserted "A==\"x\"and(B>=)NOT".toList =
      " A==\"x\" and(B>= )NOT ".toList := rfl
  have respelled : Spans.withSymbols " A==\"x\" and(B>= )NOT ".toList =
      " A==\"x\" &&(B>= )! ".toList := by
    decide +kernel
  have agrees := (ofText_reworded primed blank fun span inside index after before =>
    if_neg fun chosen => apart span inside index chosen after before).2 false
  rw [spaced, respelled] at agrees
  exact ⟨symbolic, inserted, primed, tokens, spaced, respelled, agrees⟩

end Symbolic

end EventFilter
