import EventFilter.Proofs.Fault
import EventFilter.Proofs.Predicate.Unreadable
import EventFilter.Proofs.Span.Tiling
import EventFilter.Proofs.Symbolic.Faults
import Mathlib.Data.List.Nodup

/-!
Numbered expressions lose nothing of their text.

The tokens stand in the text where their positions say, and all else is white space. The numbers
of the predicates are handed out in reading order without a gap, one for each distinct text.
-/

namespace EventFilter

section Distinct

variable {Element Other : Type} [BEq Element] [LawfulBEq Element] [BEq Other] [LawfulBEq Other]

theorem nodup_eraseDups : (elements : List Element) → elements.eraseDups.Nodup
  | [] => List.nodup_nil
  | first :: rest => by
      rw [List.eraseDups_cons, List.nodup_cons]
      refine ⟨?_, nodup_eraseDups _⟩
      rw [List.mem_eraseDups]
      simp
termination_by elements => elements.length
decreasing_by exact Nat.lt_succ_of_le (List.length_filter_le _ rest)

theorem eraseDups_map_of_injective (rename : Element → Other) : (elements : List Element) →
    (∀ first ∈ elements, ∀ second ∈ elements, rename first = rename second → first = second) →
    (elements.map rename).eraseDups = elements.eraseDups.map rename
  | [], _ => rfl
  | first :: rest, injective => by
      have kept : (rest.map rename).filter (fun other => !other == rename first) =
          (rest.filter fun other => !other == first).map rename := by
        rw [List.filter_map]
        congr 1
        apply List.filter_congr
        intro other inside
        by_cases same : other = first
        · simp [same]
        · have distinct : rename other ≠ rename first := fun equal =>
            same (injective other (List.mem_cons_of_mem first inside) first
              List.mem_cons_self equal)
          simp [same, distinct]
      have remaining := eraseDups_map_of_injective rename
        (rest.filter fun other => !other == first) fun one oneInside two twoInside =>
          injective one (List.mem_cons_of_mem first (List.mem_of_mem_filter oneInside))
            two (List.mem_cons_of_mem first (List.mem_of_mem_filter twoInside))
      rw [List.map_cons, List.eraseDups_cons, List.eraseDups_cons, List.map_cons, kept, remaining]
termination_by elements => elements.length
decreasing_by exact Nat.lt_succ_of_le (List.length_filter_le _ rest)

theorem eraseDups_filter (isKept : Element → Bool) : (elements : List Element) →
    (elements.filter isKept).eraseDups = elements.eraseDups.filter isKept
  | [] => rfl
  | first :: rest => by
      have ih := eraseDups_filter isKept (rest.filter fun other => !other == first)
      by_cases kept : isKept first = true
      · rw [List.filter_cons_of_pos kept, List.eraseDups_cons, List.eraseDups_cons,
          List.filter_cons_of_pos kept, ← ih, List.filter_comm]
      · have others : rest.filter isKept =
            (rest.filter fun other => !other == first).filter isKept := by
          rw [List.filter_filter]
          apply List.filter_congr
          intro other _
          by_cases same : other = first
          · simp [same, kept]
          · simp [same]
        rw [List.filter_cons_of_neg kept, List.eraseDups_cons, List.filter_cons_of_neg kept, ← ih,
          others]
termination_by elements => elements.length
decreasing_by exact Nat.lt_succ_of_le (List.length_filter_le _ rest)

end Distinct

def Token.IsReadFrom {Item : Type} (keywords : Bool) (items : List (Text × Item)) :
    Token → Text → Prop
  | symbol index, text => 0 ≤ index ∧ (items.map Prod.fst)[index.toNat]? = some text
  | connective operator, text =>
    text = operator.spelling ∨ keywords = true ∧ text.map Char.toLower = operator.keyword
  | openGroup, text => text = ['(']
  | closeGroup, text => text = [')']
  | other _, _ => False

namespace Symbolic

variable {Effect : Type → Type} {Item : Type}

/-- What a numbered expression keeps of a text: `texts` are the texts of its tokens. -/
structure IsLossless (kind : PredicateKind Effect Item) (keywords : Bool) (text : Text)
    (symbolic : Symbolic Item) (texts : List Text) : Prop where
  sameLength : symbolic.tokens.length = symbolic.positions.length ∧
    symbolic.tokens.length = texts.length
  increasing : symbolic.positions.Pairwise (· < ·)
  tiled : IsTiled text (symbolic.positions.zip texts)
  readFrom : ∀ entry ∈ symbolic.tokens.zip texts,
    entry.1.IsReadFrom keywords symbolic.items entry.2
  built : ∀ item ∈ symbolic.items, kind.build item.1 = .ok item.2 ∧ kind.text item.2 = item.1
  numbers : (symbolic.tokens.filterMap Token.symbol?).eraseDups =
    (List.range symbolic.items.length).map Int.ofNat
  shared : ∀ first ∈ symbolic.tokens.zip texts, ∀ second ∈ symbolic.tokens.zip texts,
    first.1.symbol?.isSome → second.1.symbol?.isSome →
    (first.1 = second.1 ↔ first.2 = second.2)

section Place

variable {items : List (Text × Item)} {text : Text}

theorem place_eq_idxOf (items : List (Text × Item)) (text : Text) :
    place items text = Int.ofNat ((items.map Prod.fst).idxOf text) := by
  rw [place, List.idxOf, List.findIdx_map]
  congr
  funext item
  exact (beq_eq_decide item.1 text).symm

theorem map_place (distinct : (items.map Prod.fst).Nodup) :
    (items.map Prod.fst).map (place items) = (List.range items.length).map Int.ofNat := by
  apply List.ext_getElem
  · simp
  · intro index inside _
    rw [List.length_map] at inside
    rw [List.getElem_map, place_eq_idxOf, distinct.idxOf_getElem index inside, List.getElem_map,
      List.getElem_range]

theorem place_injective (known : text ∈ items.map Prod.fst) {other : Text}
    (otherKnown : other ∈ items.map Prod.fst) (same : place items text = place items other) :
    text = other := by
  obtain ⟨item, found⟩ := getElem?_place known
  obtain ⟨otherItem, otherFound⟩ := getElem?_place otherKnown
  rw [same, otherFound] at found
  exact (congrArg Prod.fst (Option.some.inj found)).symm

end Place

section Numbers

variable {kind : PredicateKind Effect Item} {marks : List (Mark Text)} {symbolic : Symbolic Item}

theorem IsNumbering.symbols (isNumbering : IsNumbering kind [] marks symbolic) :
    symbolic.tokens.filterMap Token.symbol? =
      (marks.filterMap Mark.atom?).map (place symbolic.items) := by
  rw [isNumbering.tokens, List.filterMap_map, List.map_filterMap]
  congr 1
  funext mark
  cases mark <;> rfl

theorem IsNumbering.numbers (isNumbering : IsNumbering kind [] marks symbolic) :
    (symbolic.tokens.filterMap Token.symbol?).eraseDups =
      (List.range symbolic.items.length).map Int.ofNat := by
  have texts := isNumbering.map_fst_items
  have known : ∀ name ∈ marks.filterMap Mark.atom?, name ∈ symbolic.items.map Prod.fst :=
    fun name => isNumbering.mem_items_iff.mpr
  have distinct : (symbolic.items.map Prod.fst).Nodup := by
    rw [texts]
    exact nodup_eraseDups _
  calc
    (symbolic.tokens.filterMap Token.symbol?).eraseDups =
        ((marks.filterMap Mark.atom?).map (place symbolic.items)).eraseDups := by
      rw [isNumbering.symbols]
    _ = (marks.filterMap Mark.atom?).eraseDups.map (place symbolic.items) :=
      eraseDups_map_of_injective _ _ fun first inside second alsoInside =>
        place_injective (known first inside) (known second alsoInside)
    _ = (symbolic.items.map Prod.fst).map (place symbolic.items) := by rw [texts]
    _ = (List.range symbolic.items.length).map Int.ofNat := map_place distinct

end Numbers

theorem positions_of_ofSpansFrom {numbering : Numbering Effect Item} {expression : Text}
    {known : List (Text × Item)} {spans : List Span} {symbolic : Symbolic Item}
    (numbered : ofSpansFrom numbering expression known spans = .ok symbolic) :
    symbolic.positions = spans.map Span.start := by
  induction spans generalizing known symbolic with
  | nil =>
      cases numbered
      rfl
  | cons span rest ih =>
      obtain ⟨_, _, following, _, found, rfl⟩ := ofSpansFrom_cons_eq_ok_iff.mp numbered
      rw [List.map_cons, ← ih found]
      rfl

theorem isReadFrom_of_isWritten {kind : PredicateKind Effect Item} {keywords : Bool}
    {items : List (Text × Item)} {span : Span}
    (isWritten : span.lexeme.IsWritten kind keywords span.text)
    (known : ∀ name ∈ span.mark.atom?, name ∈ items.map Prod.fst) :
    (span.mark.map (place items)).token.IsReadFrom keywords items span.text := by
  obtain ⟨start, lexeme, text⟩ := span
  cases isWritten with
  | symbol operator => exact .inl rfl
  | keyword isOn spelled => exact .inr ⟨isOn, spelled⟩
  | openGroup | closeGroup => rfl
  | predicate present valid =>
      obtain ⟨item, found⟩ := getElem?_place (known text rfl)
      refine ⟨Int.natCast_nonneg _, ?_⟩
      rw [List.getElem?_map, found]
      rfl

theorem token_eq_iff {items : List (Text × Item)} {first second : Span}
    (firstKnown : ∀ name ∈ first.mark.atom?, name ∈ items.map Prod.fst)
    (secondKnown : ∀ name ∈ second.mark.atom?, name ∈ items.map Prod.fst)
    (firstSymbol : (first.mark.map (place items)).token.symbol?.isSome)
    (secondSymbol : (second.mark.map (place items)).token.symbol?.isSome) :
    (first.mark.map (place items)).token = (second.mark.map (place items)).token ↔
      first.text = second.text := by
  obtain ⟨start, lexeme, text⟩ := first
  obtain ⟨otherStart, otherLexeme, other⟩ := second
  cases lexeme with
  | connective | openGroup | closeGroup => cases firstSymbol
  | predicate =>
      cases otherLexeme with
      | connective | openGroup | closeGroup => cases secondSymbol
      | predicate =>
          constructor
          · intro same
            exact place_injective (firstKnown text rfl) (secondKnown other rfl)
              (Token.symbol.inj same)
          · rintro rfl
            rfl

end Symbolic

theorem PredicateKind.IsSupplied.text_of_build {Effect : Type → Type} {Item : Type}
    {kind : PredicateKind Effect Item} (supplied : kind.IsSupplied) {text : Text} {item : Item}
    (built : kind.build text = .ok item) : kind.text item = text := by
  cases supplied with
  | standard | searched =>
      change Predicate.build text = .ok item at built
      unfold Predicate.build at built
      split at built
      · cases built
      · rename_i parts _
        simp only [bind, Except.bind] at built
        split at built
        · cases built
        · cases built
          rfl
  | markers =>
      cases built
      rfl

namespace Symbolic

variable {Effect : Type → Type} {Item : Type} {kind : PredicateKind Effect Item}

theorem isLossless_of_tiles (supplied : kind.IsSupplied) {ceiling : Option Int} {keywords : Bool}
    {expression text : Text} {spans : Spans} {symbolic : Symbolic Item}
    (numbered : ofSpansFrom ⟨kind, ceiling⟩ expression [] spans.spans = .ok symbolic)
    (isWritten : ∀ span ∈ spans.spans, span.lexeme.IsWritten kind keywords span.text)
    (tiles : Tiles 0 text spans.pieces) :
    IsLossless kind keywords text symbolic (spans.spans.map Span.text) := by
  have isNumbering := isNumbering_of_ofSpansFrom numbered
  have positions := positions_of_ofSpansFrom numbered
  have tokens : symbolic.tokens =
      spans.spans.map fun span => (span.mark.map (place symbolic.items)).token := by
    rw [isNumbering.tokens, List.map_map]
    rfl
  have known : ∀ span ∈ spans.spans, ∀ name ∈ span.mark.atom?,
      name ∈ symbolic.items.map Prod.fst := by
    intro span inside name isAtom
    exact isNumbering.mem_items_iff.mpr
      (List.mem_filterMap.mpr ⟨span.mark, List.mem_map_of_mem inside, isAtom⟩)
  have pieces : symbolic.positions.zip (spans.spans.map Span.text) = spans.pieces := by
    rw [positions, List.zip_map']
    rfl
  have read : symbolic.tokens.zip (spans.spans.map Span.text) = spans.spans.map fun span =>
      ((span.mark.map (place symbolic.items)).token, span.text) := by
    rw [tokens, List.zip_map']
  have tiled := tiles.isTiled
  refine ⟨?_, ?_, pieces ▸ tiled, ?_, ?_, isNumbering.numbers, ?_⟩
  · rw [tokens, positions]
    simp
  · have starts : symbolic.positions = spans.pieces.map Prod.fst := by
      rw [positions, Spans.pieces, List.map_map]
      rfl
    rw [starts, List.pairwise_map]
    apply tiled.apart.imp_of_mem
    intro piece next inside _ apart
    have positive := List.length_pos_iff.mpr (tiled.present piece inside)
    omega
  · rw [read]
    rintro _ inside
    obtain ⟨span, member, rfl⟩ := List.mem_map.mp inside
    exact isReadFrom_of_isWritten (isWritten span member) (known span member)
  · intro item inside
    have built := isNumbering.build item inside
    exact ⟨built, supplied.text_of_build built⟩
  · rw [read]
    intro first inside second alsoInside
    obtain ⟨span, member, rfl⟩ := List.mem_map.mp inside
    obtain ⟨other, otherMember, rfl⟩ := List.mem_map.mp alsoInside
    exact token_eq_iff (known span member) (known other otherMember)

theorem ofSpansFrom_of_unrecognised (supplied : kind.IsSupplied) {ceiling : Option Int}
    {keywords : Bool} {expression : Text} {position : Nat}
    (failed : ofText ⟨kind, ceiling⟩ keywords expression =
      .error (.parsing ⟨.unrecognisedToken, some expression, some position⟩)) :
    (Spans.ofText kind keywords expression).unrecognised = some position ∧
      ∃ symbolic, ofSpansFrom ⟨kind, ceiling⟩ expression []
        (Spans.ofText kind keywords expression).spans = .ok symbolic := by
  rcases ofText_eq_error_iff.mp failed with numbered | ⟨symbolic, place, passed, stopped, same⟩
  · have valid : ∀ span ∈ (Spans.ofText kind keywords expression).spans,
        span.lexeme = .predicate → kind.isValid span.text = true :=
      fun span inside => Spans.isValid_of_mem supplied.isSound inside
    rcases ceiling_or_unreadable supplied valid numbered with
      ⟨_, _, _, _, _, _, _, _, same⟩ | ⟨_, same⟩
    · cases ParsingReason.eq_of_fault_eq_parsing same.symm
    · cases same
  · cases ParsingReason.eq_of_fault_eq_parsing same.symm
    exact ⟨stopped, symbolic, passed⟩

/-- The tokens of an expression tile it, and the numbers of its predicates follow their first
occurrences. Where nothing is recognised there is no white space, and what was read before is
tiled in the same way. -/
theorem ofText_lossless (supplied : kind.IsSupplied) (ceiling : Option Int) (keywords : Bool)
    (expression : Text) :
    (∀ symbolic, ofText ⟨kind, ceiling⟩ keywords expression = .ok symbolic →
      ∃ texts, IsLossless kind keywords expression symbolic texts) ∧
    ∀ position, ofText ⟨kind, ceiling⟩ keywords expression =
        .error (.parsing ⟨.unrecognisedToken, some expression, some position⟩) →
      (∃ character, expression[position]? = some character ∧ Text.isBlank character = false) ∧
      ∃ symbolic texts, ofSpansFrom ⟨kind, ceiling⟩ expression []
          (Spans.ofText kind keywords expression).spans = .ok symbolic ∧
        IsLossless kind keywords (expression.take position) symbolic texts := by
  have isWritten : ∀ span ∈ (Spans.ofText kind keywords expression).spans,
      span.lexeme.IsWritten kind keywords span.text :=
    Spans.isWritten_of_mem supplied.isSound expression
  obtain ⟨before, rest, split, tiles, remains⟩ :=
    Spans.tiles_ofText supplied.isSound keywords expression
  constructor
  · intro symbolic found
    obtain ⟨recognised, numbered⟩ := ofText_eq_ok_iff.mp found
    have whole : expression = before := by
      rw [recognised] at remains
      cases remains
      rwa [List.append_nil] at split
    exact ⟨_, isLossless_of_tiles supplied numbered isWritten (whole ▸ tiles)⟩
  · intro position failed
    obtain ⟨stopped, symbolic, numbered⟩ := ofSpansFrom_of_unrecognised supplied failed
    rw [stopped] at remains
    obtain ⟨rfl, first, tail, rfl, visible⟩ := remains.of_some
    have taken : expression.take before.length = before := by rw [split, List.take_left]
    refine ⟨⟨first, ?_, visible⟩, symbolic,
      (Spans.ofText kind keywords expression).spans.map Span.text, numbered, ?_⟩
    · rw [split, List.getElem?_append_right (Nat.le_refl _), Nat.sub_self]
      rfl
    · rw [taken]
      exact isLossless_of_tiles supplied numbered isWritten tiles

theorem ofText_lossless_shared :
    PredicateKind.standard.IsSupplied ∧
    (∃ symbolic, ofText ⟨.standard, some 2⟩ true "A==x AND !(B==y or A==x)".toList = .ok symbolic ∧
      symbolic.tokens = [.symbol 0, .connective .and, .connective .not, .openGroup, .symbol 1,
        .connective .or, .symbol 0, .closeGroup] ∧
      ∃ texts, IsLossless .standard true "A==x AND !(B==y or A==x)".toList symbolic texts) ∧
    (ofText ⟨.standard, some 2⟩ true "A==x ?".toList =
        .error (.parsing ⟨.unrecognisedToken, some "A==x ?".toList, some 5⟩) ∧
      ∃ symbolic texts, IsLossless .standard true "A==x ".toList symbolic texts) := by
  have spans : Spans.ofText .standard true "A==x AND !(B==y or A==x)".toList =
      ⟨[⟨0, .predicate, "A==x".toList⟩, ⟨5, .connective .and, "AND".toList⟩,
        ⟨9, .connective .not, ['!']⟩, ⟨10, .openGroup, ['(']⟩, ⟨11, .predicate, "B==y".toList⟩,
        ⟨16, .connective .or, "or".toList⟩, ⟨19, .predicate, "A==x".toList⟩,
        ⟨23, .closeGroup, [')']⟩], none⟩ := by
    decide +kernel
  have stopped : Spans.ofText .standard true "A==x ?".toList =
      ⟨[⟨0, .predicate, "A==x".toList⟩], some 5⟩ := by
    decide +kernel
  obtain ⟨symbolic, primed, tokens⟩ : ∃ symbolic,
      ofText ⟨.standard, some 2⟩ true "A==x AND !(B==y or A==x)".toList = .ok symbolic ∧
        symbolic.tokens = [.symbol 0, .connective .and, .connective .not, .openGroup, .symbol 1,
          .connective .or, .symbol 0, .closeGroup] := by
    rw [ofText, spans]
    exact ⟨_, rfl, rfl⟩
  have failed : ofText ⟨.standard, some 2⟩ true "A==x ?".toList =
      .error (.parsing ⟨.unrecognisedToken, some "A==x ?".toList, some 5⟩) := by
    rw [ofText, stopped]
    rfl
  obtain ⟨_, prefixed, texts, _, lossless⟩ :=
    (ofText_lossless .standard (some 2) true "A==x ?".toList).2 5 failed
  have whole := (ofText_lossless .standard (some 2) true _).1 symbolic primed
  exact ⟨.standard, ⟨symbolic, primed, tokens, whole⟩, failed, prefixed, texts, lossless⟩

end Symbolic

end EventFilter
