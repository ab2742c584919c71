import EventFilter.Proofs.Span.Concatenation
import EventFilter.Proofs.Symbolic.Ceiling
import EventFilter.Proofs.Symbolic.Lossless
import EventFilter.Proofs.Symbolic.Rewording

/-!
Expressions with white space between two parts.

The numbering of the whole goes on where that of the first part ends: texts of the first part keep
their numbers, and the new texts of the second part get the next ones. A fault of the second part
is that of the whole, at a place that is as much farther on.
-/

namespace EventFilter

namespace Symbolic

variable {Effect : Type → Type} {Item : Type} {kind : PredicateKind Effect Item}

/-- The items of a first part, and those of a second one whose texts are new. -/
def joinItems (items others : List (Text × Item)) : List (Text × Item) :=
  items ++ others.filter fun item => !(items.map Prod.fst).contains item.1

def renumber (others items : List (Text × Item)) : Token → Token
  | .symbol index =>
    match others[index.toNat]? with
    | some item => .symbol (place items item.1)
    | none => .symbol index
  | token => token

/-- A numbered expression with another one behind it, which begins at a distance. -/
def append (first second : Symbolic Item) (distance : Nat) : Symbolic Item where
  placed := first.placed ++ second.placed.map fun placed =>
    ⟨renumber second.items (joinItems first.items second.items) placed.token,
      placed.position + distance⟩
  items := joinItems first.items second.items

theorem placed_eq (symbolic : Symbolic Item) :
    symbolic.placed = List.zipWith Placed.mk symbolic.tokens symbolic.positions := by
  rw [tokens, positions, List.zipWith_map, List.zipWith_self]
  exact (List.map_id _).symm

theorem ext {first second : Symbolic Item} (items : first.items = second.items)
    (tokens : first.tokens = second.tokens) (positions : first.positions = second.positions) :
    first = second := by
  have placed : first.placed = second.placed := by
    rw [placed_eq, placed_eq, tokens, positions]
  obtain ⟨_, _⟩ := first
  cases items
  cases placed
  rfl

section Numbering

variable {marks others : List (Mark Text)} {first second : Symbolic Item} {distance : Nat}

theorem map_fst_joinItems (isNumbering : IsNumbering kind [] marks first)
    (again : IsNumbering kind [] others second) :
    (joinItems first.items second.items).map Prod.fst =
      ((marks ++ others).filterMap Mark.atom?).eraseDups := by
  have texts := isNumbering.map_fst_items
  have new : (second.items.filter fun item =>
        !(first.items.map Prod.fst).contains item.1).map Prod.fst =
      (second.items.map Prod.fst).filter fun text =>
        !(first.items.map Prod.fst).contains text := by
    rw [List.filter_map]
    rfl
  have unseen : (others.filterMap Mark.atom?).removeAll (marks.filterMap Mark.atom?) =
      (others.filterMap Mark.atom?).filter fun text =>
        !(first.items.map Prod.fst).contains text := by
    apply List.filter_congr
    intro text _
    rw [texts, List.contains_eq_mem, List.elem_eq_mem]
    simp only [List.mem_eraseDups]
  rw [joinItems, List.map_append, new, again.map_fst_items, ← eraseDups_filter, ← unseen, texts,
    List.filterMap_append, List.eraseDups_append]

theorem renumber_token {items known : List (Text × Item)} {mark : Mark Text}
    (inside : ∀ name ∈ mark.atom?, name ∈ known.map Prod.fst) :
    renumber known items (mark.map (place known)).token = (mark.map (place items)).token := by
  cases mark with
  | atom name =>
      obtain ⟨item, found⟩ := getElem?_place (inside name rfl)
      simp only [Mark.map, Mark.token, renumber, found]
  | connective | openGroup | closeGroup => rfl

theorem place_joinItems {items more : List (Text × Item)} {mark : Mark Text}
    (inside : ∀ name ∈ mark.atom?, name ∈ items.map Prod.fst) :
    mark.map (place (joinItems items more)) = mark.map (place items) := by
  cases mark with
  | atom name => exact congrArg Mark.atom (place_append (inside name rfl))
  | connective | openGroup | closeGroup => rfl

theorem IsNumbering.known (isNumbering : IsNumbering kind [] marks first) {mark : Mark Text}
    (inside : mark ∈ marks) : ∀ name ∈ mark.atom?, name ∈ first.items.map Prod.fst := by
  intro name isAtom
  exact isNumbering.mem_items_iff.mpr (List.mem_filterMap.mpr ⟨mark, inside, isAtom⟩)

theorem tokens_append (first second : Symbolic Item) (distance : Nat) :
    (first.append second distance).tokens = first.tokens ++
      second.tokens.map (renumber second.items (joinItems first.items second.items)) := by
  simp [append, tokens]

theorem positions_append (first second : Symbolic Item) (distance : Nat) :
    (first.append second distance).positions =
      first.positions ++ second.positions.map (· + distance) := by
  simp [append, positions]

theorem IsNumbering.append (isNumbering : IsNumbering kind [] marks first)
    (again : IsNumbering kind [] others second) (distance : Nat) :
    IsNumbering kind [] (marks ++ others) (first.append second distance) := by
  refine ⟨⟨joinItems first.items second.items, rfl, ?_, ?_⟩, ?_⟩
  · rw [map_fst_joinItems isNumbering again, List.map_nil, unseen_nothing]
  · intro entry inside
    rcases List.mem_append.mp inside with early | late
    · exact isNumbering.build entry early
    · exact again.build entry (List.mem_of_mem_filter late)
  · rw [tokens_append, isNumbering.tokens, again.tokens, List.map_append, List.map_map]
    congr 1
    · apply List.map_congr_left
      intro mark inside
      exact (congrArg Mark.token (place_joinItems (isNumbering.known inside))).symm
    · apply List.map_congr_left
      intro mark inside
      exact renumber_token (again.known inside)

end Numbering

section Spans

variable {spans others : List Span} {first second : Symbolic Item} {fault : Fault}
  {text other : Text} {distance : Nat}

theorem map_mark_shift (spans : List Span) (distance : Nat) :
    (spans.map (Span.shift distance)).map Span.mark = spans.map Span.mark := by
  rw [List.map_map]
  rfl

theorem exists_ofSpansFrom_append
    (numbered : ofSpansFrom ⟨kind, none⟩ text [] spans = .ok first)
    (following : ofSpansFrom ⟨kind, none⟩ other [] others = .ok second)
    (whole : Text) (distance : Nat) :
    ∃ joined, ofSpansFrom ⟨kind, none⟩ whole [] (spans ++ others.map (Span.shift distance)) =
        .ok joined ∧
      IsNumbering kind [] (spans.map Span.mark ++ others.map Span.mark) joined := by
  have isNumbering := isNumbering_of_ofSpansFrom numbered
  have again := isNumbering_of_ofSpansFrom following
  have same : (spans ++ others.map (Span.shift distance)).map Span.mark =
      spans.map Span.mark ++ others.map Span.mark := by
    rw [List.map_append, map_mark_shift]
  have buildable : ∀ name ∈
      ((spans ++ others.map (Span.shift distance)).map Span.mark).filterMap Mark.atom?,
      ∃ item, kind.build name = .ok item := by
    rw [same]
    exact (isNumbering.append again distance).buildable
  let unbounded : Numbering Effect Item := ⟨kind, none⟩
  obtain ⟨joined, found⟩ : ∃ joined, ofSpansFrom unbounded whole []
      (spans ++ others.map (Span.shift distance)) = .ok joined :=
    exists_ofSpansFrom buildable (by rintro _ ⟨⟩)
  refine ⟨joined, found, ?_⟩
  rw [← same]
  exact isNumbering_of_ofSpansFrom found

theorem ofSpansFrom_shift_append
    (numbered : ofSpansFrom ⟨kind, none⟩ text [] spans = .ok first)
    (following : ofSpansFrom ⟨kind, none⟩ other [] others = .ok second)
    (whole : Text) (distance : Nat) :
    ofSpansFrom ⟨kind, none⟩ whole [] (spans ++ others.map (Span.shift distance)) =
      .ok (first.append second distance) := by
  obtain ⟨joined, found, isNumbering⟩ :=
    exists_ofSpansFrom_append numbered following whole distance
  have appended := (isNumbering_of_ofSpansFrom numbered).append
    (isNumbering_of_ofSpansFrom following) distance
  obtain ⟨items, tokens⟩ := isNumbering.unique appended
  have positions : joined.positions = (first.append second distance).positions := by
    rw [positions_of_ofSpansFrom found, positions_append, positions_of_ofSpansFrom numbered,
      positions_of_ofSpansFrom following, List.map_append, List.map_map, List.map_map]
    rfl
  rw [found, ext items tokens positions]

theorem ofSpansFrom_shift_append_error
    (numbered : ofSpansFrom ⟨kind, none⟩ text [] spans = .ok first)
    (failed : ofSpansFrom ⟨kind, none⟩ other [] others = .error fault)
    (whole : Text) (distance : Nat) :
    ofSpansFrom ⟨kind, none⟩ whole [] (spans ++ others.map (Span.shift distance)) =
      .error fault := by
  obtain ⟨before, span, after, second, rfl, passed, refused⟩ := ofSpansFrom_eq_error_iff.mp failed
  obtain ⟨isPredicate, _, refused⟩ := token_eq_error_iff.mp refused
  obtain ⟨joined, found, isNumbering⟩ := exists_ofSpansFrom_append numbered passed whole distance
  refine ofSpansFrom_eq_error_iff.mpr ⟨spans ++ before.map (Span.shift distance),
    span.shift distance, after.map (Span.shift distance), joined, by simp, found, ?_⟩
  cases refused with
  | ceiling reached => cases reached
  | build free built =>
      refine token_eq_error_iff.mpr ⟨isPredicate, ?_, .build rfl built⟩
      intro inside
      obtain ⟨item, buildable⟩ := isNumbering.buildable _ (isNumbering.mem_items_iff.mp inside)
      have refusedHere : kind.build (span.shift distance).text = .error fault := built
      rw [refusedHere] at buildable
      cases buildable

end Spans

section Text

variable {keywords : Bool} {text gap : Text} {first : Symbolic Predicate}

/-- A fault in the text that begins at a distance in an expression. -/
def moveFault (expression : Text) (distance : Nat) : Fault → Fault
  | .parsing fault =>
    .parsing {
      reason := fault.reason
      expression := some expression
      position := fault.position.map (· + distance) }
  | fault => fault

/-- Behind an expression and white space any text is numbered as it is alone, except that texts of
the expression keep their numbers, and that all places are as much farther on. Only a predicate that
ends in `>=` or `<=` may not stand at the end of the expression. -/
theorem ofText_concatenation
    (primed : ofText ⟨.standard, none⟩ keywords text = .ok first)
    (ends : Spans.EndsUnbound (Spans.ofText .standard keywords text).spans)
    (present : gap ≠ []) (blank : gap.all Text.isBlank = true) (other : Text) :
    ofText ⟨.standard, none⟩ keywords (text ++ (gap ++ other)) =
      ((ofText ⟨.standard, none⟩ keywords other).map fun second =>
        first.append second (text ++ gap).length).mapError
          (moveFault (text ++ (gap ++ other)) (text ++ gap).length) := by
  obtain ⟨recognised, numbered⟩ := ofText_eq_ok_iff.mp primed
  have spans := Spans.ofText_append recognised ends present blank other
  cases outcome : ofText ⟨.standard, none⟩ keywords other with
  | ok second =>
      obtain ⟨recognisedOther, following⟩ := ofText_eq_ok_iff.mp outcome
      rw [Except.map, Except.mapError, ofText_eq_ok_iff, spans]
      refine ⟨by simp [Spans.shift, recognisedOther], ?_⟩
      exact ofSpansFrom_shift_append numbered following _ _
  | error fault =>
      rw [Except.map, Except.mapError, ofText_eq_error_iff, spans]
      rcases ofText_eq_error_iff.mp outcome with
        failed | ⟨second, position, following, stopped, rfl⟩
      · obtain ⟨value, rfl⟩ := unreadable_of_unbounded .standard failed
        exact .inl (ofSpansFrom_shift_append_error numbered failed _ _)
      · have stoppedBehind : (Spans.ofText .standard keywords
            (text ++ (gap ++ other))).unrecognised = some (position + (text ++ gap).length) := by
          simp [spans, Spans.shift, stopped]
        refine .inr ⟨_, position + (text ++ gap).length,
          ofSpansFrom_shift_append numbered following _ _, spans ▸ stoppedBehind, ?_⟩
        rw [fault_of_unrecognised PredicateKind.isSound_standard stopped,
          fault_of_unrecognised PredicateKind.isSound_standard stoppedBehind]
        rfl

theorem ofText_concatenation_shared :
    ∃ second whole,
      ofText ⟨.standard, none⟩ true "(B==y or A==x)".toList = .ok second ∧
      second.tokens = [.openGroup, .symbol 0, .connective .or, .symbol 1, .closeGroup] ∧
      ofText ⟨.standard, none⟩ true "A==x AND\t(B==y or A==x)".toList = .ok whole ∧
      whole.tokens = [.symbol 0, .connective .and, .openGroup, .symbol 1, .connective .or,
        .symbol 0, .closeGroup] ∧
      whole.positions = [0, 5, 9, 10, 15, 18, 22] ∧
      ofText ⟨.standard, none⟩ true "B==y =".toList =
        .error (.parsing ⟨.unrecognisedToken, some "B==y =".toList, some 5⟩) ∧
      ofText ⟨.standard, none⟩ true "A==x AND\tB==y =".toList =
        .error (.parsing ⟨.unrecognisedToken, some "A==x AND\tB==y =".toList, some 14⟩) := by
  have spans : Spans.ofText .standard true "A==x AND".toList =
      ⟨[⟨0, .predicate, "A==x".toList⟩, ⟨5, .connective .and, "AND".toList⟩], none⟩ := by
    decide +kernel
  have following : Spans.ofText .standard true "(B==y or A==x)".toList =
      ⟨[⟨0, .openGroup, ['(']⟩, ⟨1, .predicate, "B==y".toList⟩, ⟨6, .connective .or, "or".toList⟩,
        ⟨9, .predicate, "A==x".toList⟩, ⟨13, .closeGroup, [')']⟩], none⟩ := by
    decide +kernel
  have stopping : Spans.ofText .standard true "B==y =".toList =
      ⟨[⟨0, .predicate, "B==y".toList⟩], some 5⟩ := by
    decide +kernel
  have ends : Spans.EndsUnbound (Spans.ofText .standard true "A==x AND".toList).spans := by
    rw [spans]
    rintro _ ⟨⟩ isPredicate
    cases isPredicate
  have stopped : ofText ⟨.standard, none⟩ true "B==y =".toList =
      .error (.parsing ⟨.unrecognisedToken, some "B==y =".toList, some 5⟩) := by
    rw [ofText, stopping]
    rfl
  obtain ⟨first, second, primed, numbered, tokens, appended, places⟩ : ∃ first second,
      ofText ⟨.standard, none⟩ true "A==x AND".toList = .ok first ∧
      ofText ⟨.standard, none⟩ true "(B==y or A==x)".toList = .ok second ∧
      second.tokens = [.openGroup, .symbol 0, .connective .or, .symbol 1, .closeGroup] ∧
      (first.append second 9).tokens = [.symbol 0, .connective .and, .openGroup, .symbol 1,
        .connective .or, .symbol 0, .closeGroup] ∧
      (first.append second 9).positions = [0, 5, 9, 10, 15, 18, 22] := by
    rw [ofText, ofText, spans, following]
    exact ⟨_, _, rfl, rfl, rfl, rfl, rfl⟩
  have present : ['\t'] ≠ [] := List.cons_ne_nil _ _
  have behind := ofText_concatenation primed ends present rfl
  have whole := behind "(B==y or A==x)".toList
  have halted := behind "B==y =".toList
  rw [numbered] at whole
  rw [stopped] at halted
  exact ⟨second, first.append second 9, numbered, tokens, whole, appended, places, stopped, halted⟩

end Text

end Symbolic

end EventFilter
