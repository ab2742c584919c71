import EventFilter.Proofs.Span.Keyword

/-!
The spans of an expression lose nothing of it.

The spans that `Spans.ofText` finds stand one behind the other from the beginning of a text to its
end, or to the place where nothing is recognised. None of them is empty, and only white space
stands between them.
-/

namespace EventFilter

inductive Lexeme.IsWritten {Effect : Type → Type} {Item : Type} (kind : PredicateKind Effect Item)
    (keywords : Bool) : Lexeme → Text → Prop
  | symbol (operator : Connective) :
      IsWritten kind keywords (.connective operator) operator.spelling
  | keyword {operator : Connective} {word : Text} : keywords = true →
      word.map Char.toLower = operator.keyword →
      IsWritten kind keywords (.connective operator) word
  | openGroup : IsWritten kind keywords .openGroup ['(']
  | closeGroup : IsWritten kind keywords .closeGroup [')']
  | predicate {text : Text} : text ≠ [] → kind.isValid text = true →
      IsWritten kind keywords .predicate text

/-- How a token is written at the beginning of a text, and what it is that follows it there. -/
inductive Lexeme.Begins {Effect : Type → Type} {Item : Type} (kind : PredicateKind Effect Item)
    (keywords : Bool) : Lexeme → Text → Text → Prop
  | symbol (operator : Connective) {following : Text} :
      Begins kind keywords (.connective operator) operator.spelling following
  | keyword {operator : Connective} {word following : Text} : keywords = true →
      word.map Char.toLower = operator.keyword → endsKeyword following = true →
      Begins kind keywords (.connective operator) word following
  | openGroup {following : Text} : Begins kind keywords .openGroup ['('] following
  | closeGroup {following : Text} : Begins kind keywords .closeGroup [')'] following
  | predicate {text following : Text} : text ≠ [] →
      operator? keywords (text ++ following) = none →
      kind.longest? (text ++ following) = some text.length →
      Begins kind keywords .predicate text following

/-- Pieces of a text that stand apart and in order, with white space everywhere else. -/
structure IsTiled (text : Text) (pieces : List (Nat × Text)) : Prop where
  present : ∀ piece ∈ pieces, piece.2 ≠ []
  placed : ∀ piece ∈ pieces, text.slice piece.1 (piece.1 + piece.2.length) = piece.2
  apart : pieces.Pairwise fun piece next => piece.1 + piece.2.length ≤ next.1
  blank : ∀ (index : Nat) (character : Char), text[index]? = some character →
    (∀ piece ∈ pieces, index < piece.1 ∨ piece.1 + piece.2.length ≤ index) →
    Text.isBlank character = true

inductive Tiles : Nat → Text → List (Nat × Text) → Prop
  | nil {offset : Nat} : Tiles offset [] []
  | blank {offset : Nat} {first : Char} {rest : Text} {pieces : List (Nat × Text)} :
      Text.isBlank first = true → Tiles (offset + 1) rest pieces →
      Tiles offset (first :: rest) pieces
  | piece {offset : Nat} {written rest : Text} {pieces : List (Nat × Text)} : written ≠ [] →
      Tiles (offset + written.length) rest pieces →
      Tiles offset (written ++ rest) ((offset, written) :: pieces)

namespace Tiles

variable {offset : Nat} {text : Text} {pieces : List (Nat × Text)}

theorem within (tiles : Tiles offset text pieces) :
    ∀ piece ∈ pieces, piece.2 ≠ [] ∧ offset ≤ piece.1 ∧
      piece.1 + piece.2.length ≤ offset + text.length := by
  induction tiles with
  | nil => simp
  | blank isBlank tiles ih =>
      intro piece inside
      obtain ⟨present, after, before⟩ := ih piece inside
      rw [List.length_cons]
      exact ⟨present, by omega, by omega⟩
  | piece present tiles ih =>
      intro piece inside
      rw [List.length_append]
      rcases List.mem_cons.mp inside with rfl | later
      · exact ⟨present, Nat.le_refl _, by dsimp only; omega⟩
      · obtain ⟨presentLater, after, before⟩ := ih piece later
        exact ⟨presentLater, by omega, by omega⟩

theorem apart (tiles : Tiles offset text pieces) :
    pieces.Pairwise fun piece next => piece.1 + piece.2.length ≤ next.1 := by
  induction tiles with
  | nil => exact .nil
  | blank isBlank tiles ih => exact ih
  | piece present tiles ih =>
      exact List.pairwise_cons.mpr ⟨fun next later => (tiles.within next later).2.1, ih⟩

theorem length_le (tiles : Tiles offset text pieces) : pieces.length ≤ text.length := by
  induction tiles with
  | nil => exact Nat.le_refl _
  | blank isBlank tiles ih =>
      rw [List.length_cons]
      omega
  | piece present tiles ih =>
      have positive := List.length_pos_iff.mpr present
      rw [List.length_cons, List.length_append]
      omega

theorem placed (tiles : Tiles offset text pieces) :
    ∀ piece ∈ pieces, ∃ index, piece.1 = offset + index ∧
      text.slice index (index + piece.2.length) = piece.2 := by
  induction tiles with
  | nil => simp
  | blank isBlank tiles ih =>
      intro piece inside
      obtain ⟨index, position, written⟩ := ih piece inside
      refine ⟨index + 1, by omega, ?_⟩
      rwa [Text.slice, Nat.add_right_comm, List.take_succ_cons, List.drop_succ_cons]
  | piece present tiles ih =>
      rename_i offset written rest pieces
      intro piece inside
      rcases List.mem_cons.mp inside with rfl | later
      · exact ⟨0, rfl, by simp [Text.slice]⟩
      · obtain ⟨index, position, found⟩ := ih piece later
        refine ⟨written.length + index, by omega, ?_⟩
        rwa [Text.slice, Nat.add_assoc, List.take_length_add_append, List.drop_length_add_append]

theorem blank_outside (tiles : Tiles offset text pieces) :
    ∀ (index : Nat) (character : Char), text[index]? = some character →
      (∀ piece ∈ pieces, offset + index < piece.1 ∨ piece.1 + piece.2.length ≤ offset + index) →
      Text.isBlank character = true := by
  induction tiles with
  | nil => simp
  | blank isBlank tiles ih =>
      intro index character found outside
      cases index with
      | zero =>
          cases found
          exact isBlank
      | succ index =>
          apply ih index character found
          intro piece inside
          have apart := outside piece inside
          omega
  | piece present tiles ih =>
      rename_i offset written rest pieces
      intro index character found outside
      have behind : written.length ≤ index := by
        have apart := outside (offset, written) List.mem_cons_self
        dsimp only at apart
        omega
      rw [List.getElem?_append_right behind] at found
      apply ih (index - written.length) character found
      intro piece inside
      have apart := outside piece (List.mem_cons_of_mem _ inside)
      omega

theorem isTiled (tiles : Tiles 0 text pieces) : IsTiled text pieces := by
  refine ⟨fun piece inside => (tiles.within piece inside).1, ?_, tiles.apart, ?_⟩
  · intro piece inside
    obtain ⟨index, position, written⟩ := tiles.placed piece inside
    rwa [position, Nat.zero_add]
  · intro index character found outside
    apply tiles.blank_outside index character found
    rwa [Nat.zero_add]

end Tiles

namespace Lexeme

variable {Effect : Type → Type} {Item : Type} {kind : PredicateKind Effect Item}
  {keywords : Bool} {text : Text} {lexeme : Lexeme} {length : Nat}

theorem IsWritten.ne_nil {written : Text} (isWritten : IsWritten kind keywords lexeme written) :
    written ≠ [] := by
  cases isWritten with
  | symbol operator => cases operator <;> simp [Connective.spelling]
  | keyword _ spelled => exact ne_nil_of_spelled spelled
  | openGroup | closeGroup => simp
  | predicate present => exact present

theorem IsWritten.isValid {written : Text} (isWritten : IsWritten kind keywords lexeme written)
    (isPredicate : lexeme = .predicate) : kind.isValid written = true := by
  cases isWritten with
  | predicate _ valid => exact valid
  | symbol | keyword | openGroup | closeGroup => cases isPredicate

theorem begins_of_operator? (kind : PredicateKind Effect Item)
    (found : operator? keywords text = some (lexeme, length)) :
    ∃ written following, text = written ++ following ∧ length = written.length ∧
      Begins kind keywords lexeme written following := by
  unfold operator? at found
  split at found
  case h_1 rest =>
      cases found
      exact ⟨['('], rest, rfl, rfl, .openGroup⟩
  case h_2 rest =>
      cases found
      exact ⟨[')'], rest, rfl, rfl, .closeGroup⟩
  case h_3 rest =>
      cases found
      exact ⟨['&', '&'], rest, rfl, rfl, .symbol .and⟩
  case h_4 rest =>
      cases found
      exact ⟨['|', '|'], rest, rfl, rfl, .symbol .or⟩
  case h_5 rest =>
      cases found
      exact ⟨['!'], rest, rfl, rfl, .symbol .not⟩
  case h_6 =>
      split at found
      next isOn =>
        obtain ⟨operator, rfl, rfl, begins⟩ := keyword?_eq_some_iff.mp found
        obtain ⟨word, following, rfl, spelled, ends⟩ := beginsWithKeyword_iff.mp begins
        refine ⟨word, following, rfl, ?_, .keyword isOn spelled ends⟩
        rw [← spelled, List.length_map]
      next => cases found

theorem begins_of_first? (sound : kind.IsSound)
    (found : first? kind keywords text = some (lexeme, length)) :
    ∃ written following, text = written ++ following ∧ length = written.length ∧
      Begins kind keywords lexeme written following := by
  unfold first? at found
  split at found
  next operator =>
    cases found
    exact begins_of_operator? kind operator
  next noOperator =>
    obtain ⟨reached, longest, same⟩ := Option.map_eq_some_iff.mp found
    cases same
    obtain ⟨positive, within, _⟩ := sound text length longest
    have total := List.length_take_of_le within
    have whole := List.take_append_drop length text
    refine ⟨text.take length, text.drop length, whole.symm, total.symm,
      .predicate (List.length_pos_iff.mp (by omega)) ?_ ?_⟩
    · rwa [whole]
    · rw [whole, longest, total]

section Begins

variable {written following : Text}

theorem Begins.first? (begins : Begins kind keywords lexeme written following) :
    first? kind keywords (written ++ following) = some (lexeme, written.length) := by
  cases begins with
  | symbol operator => cases operator <;> rfl
  | keyword isOn spelled ends =>
      subst isOn
      exact first?_keyword kind spelled ends
  | openGroup | closeGroup => rfl
  | predicate present noOperator longest =>
      rw [Lexeme.first?, noOperator, longest]
      rfl

theorem begins_iff (sound : kind.IsSound) :
    Begins kind keywords lexeme written following ↔
      Lexeme.first? kind keywords (written ++ following) = some (lexeme, written.length) := by
  constructor
  · exact Begins.first?
  · intro found
    obtain ⟨other, rest, same, sameLength, begins⟩ := begins_of_first? sound found
    obtain ⟨rfl, rfl⟩ := List.append_inj same sameLength
    exact begins

theorem Begins.isWritten (sound : kind.IsSound)
    (begins : Begins kind keywords lexeme written following) :
    IsWritten kind keywords lexeme written := by
  cases begins with
  | symbol operator => exact .symbol operator
  | keyword isOn spelled => exact .keyword isOn spelled
  | openGroup => exact .openGroup
  | closeGroup => exact .closeGroup
  | predicate present _ longest =>
      obtain ⟨_, _, valid⟩ := sound _ _ longest
      rw [List.take_left] at valid
      exact .predicate present valid

end Begins

end Lexeme

namespace Spans

variable {Effect : Type → Type} {Item : Type} {kind : PredicateKind Effect Item} {keywords : Bool}

/-- The spans that are found in a text from an offset on. -/
inductive Located (kind : PredicateKind Effect Item) (keywords : Bool) : Nat → Text → Spans → Prop
  | nil {offset : Nat} : Located kind keywords offset [] ⟨[], none⟩
  | blank {offset : Nat} {first : Char} {rest : Text} {found : Spans} :
      Text.isBlank first = true → Located kind keywords (offset + 1) rest found →
      Located kind keywords offset (first :: rest) found
  | unrecognised {offset : Nat} {first : Char} {rest : Text} : Text.isBlank first = false →
      Lexeme.first? kind keywords (first :: rest) = none →
      Located kind keywords offset (first :: rest) ⟨[], some offset⟩
  | token {offset : Nat} {lexeme : Lexeme} {written rest : Text} {found : Spans} :
      lexeme.Begins kind keywords written rest → Text.Stops Text.isBlank written →
      Located kind keywords (offset + written.length) rest found →
      Located kind keywords offset (written ++ rest)
        ⟨⟨offset, lexeme, written⟩ :: found.spans, found.unrecognised⟩

theorem located_ofTextFrom (sound : kind.IsSound) (offset : Nat) (text : Text) :
    Located kind keywords offset text (ofTextFrom kind keywords offset text) := by
  fun_induction ofTextFrom kind keywords offset text with
  | case1 offset => exact .nil
  | case2 offset first rest isBlank ih => exact .blank isBlank ih
  | case3 offset first rest visible missing =>
      exact .unrecognised (Bool.not_eq_true _ ▸ visible) missing
  | case4 offset first rest visible lexeme length found following ih =>
      obtain ⟨written, tail, same, rfl, begins⟩ := Lexeme.begins_of_first? sound found
      obtain ⟨head, others, rfl⟩ :=
        List.exists_cons_of_ne_nil (begins.isWritten sound).ne_nil
      rw [List.cons_append] at same
      obtain ⟨rfl, rfl⟩ := List.cons.inj same
      have remaining : (others ++ tail).drop ((first :: others).length - 1) = tail :=
        List.drop_left
      have taken : (first :: (others ++ tail)).take (first :: others).length = first :: others :=
        List.take_left
      have starts : Text.Stops Text.isBlank (first :: others) := by
        rintro _ ⟨⟩
        exact Bool.not_eq_true _ ▸ visible
      rw [remaining] at ih
      simp only [following, remaining, taken]
      exact .token begins starts ih

theorem located_ofText (sound : kind.IsSound) (keywords : Bool) (text : Text) :
    Located kind keywords 0 text (ofText kind keywords text) :=
  located_ofTextFrom sound 0 text

inductive Remains (kind : PredicateKind Effect Item) (keywords : Bool) (offset : Nat) :
    Text → Option Nat → Prop
  | nothing : Remains kind keywords offset [] none
  | unrecognised {first : Char} {rest : Text} : Text.isBlank first = false →
      Lexeme.first? kind keywords (first :: rest) = none →
      Remains kind keywords offset (first :: rest) (some offset)

theorem Remains.of_some {offset position : Nat} {text : Text}
    (remains : Remains kind keywords offset text (some position)) :
    position = offset ∧ ∃ first rest, text = first :: rest ∧ Text.isBlank first = false := by
  cases remains with
  | unrecognised visible _ => exact ⟨rfl, _, _, rfl, visible⟩

def pieces (spans : Spans) : List (Nat × Text) :=
  spans.spans.map fun span => (span.start, span.text)

theorem Located.tiles (sound : kind.IsSound) {offset : Nat} {text : Text} {found : Spans}
    (located : Located kind keywords offset text found) :
    ∃ before rest, text = before ++ rest ∧ Tiles offset before found.pieces ∧
      Remains kind keywords (offset + before.length) rest found.unrecognised := by
  induction located with
  | nil => exact ⟨[], [], rfl, .nil, .nothing⟩
  | blank isBlank located ih =>
      obtain ⟨before, after, rfl, tiles, remains⟩ := ih
      refine ⟨_ :: before, after, rfl, .blank isBlank tiles, ?_⟩
      rwa [List.length_cons, Nat.add_comm before.length, ← Nat.add_assoc]
  | unrecognised visible missing => exact ⟨[], _, rfl, .nil, .unrecognised visible missing⟩
  | token begins visible located ih =>
      rename_i offset lexeme written rest found
      obtain ⟨before, after, rfl, tiles, remains⟩ := ih
      refine ⟨written ++ before, after, (List.append_assoc written before after).symm,
        .piece (begins.isWritten sound).ne_nil tiles, ?_⟩
      rwa [List.length_append, ← Nat.add_assoc]

theorem tiles_ofText (sound : kind.IsSound) (keywords : Bool) (text : Text) :
    ∃ before rest, text = before ++ rest ∧ Tiles 0 before (ofText kind keywords text).pieces ∧
      Remains kind keywords before.length rest (ofText kind keywords text).unrecognised := by
  obtain ⟨before, rest, split, tiles, remains⟩ := (located_ofText sound keywords text).tiles sound
  rw [Nat.zero_add] at remains
  exact ⟨before, rest, split, tiles, remains⟩

theorem length_le (sound : kind.IsSound) (keywords : Bool) (text : Text) :
    (ofText kind keywords text).spans.length ≤ text.length := by
  obtain ⟨before, rest, split, tiles, _⟩ := tiles_ofText sound keywords text
  have within := tiles.length_le
  have total := congrArg List.length split
  rw [pieces, List.length_map] at within
  rw [List.length_append] at total
  omega

theorem start_lt_of_mem (sound : kind.IsSound) {text : Text} :
    ∀ span ∈ (ofText kind keywords text).spans, span.start < text.length := by
  intro span inside
  obtain ⟨before, rest, split, tiles, _⟩ := tiles_ofText sound keywords text
  have piece : (span.start, span.text) ∈ (ofText kind keywords text).pieces :=
    List.mem_map_of_mem inside
  obtain ⟨present, _, within⟩ := tiles.within _ piece
  have positive := List.length_pos_iff.mpr present
  rw [split, List.length_append]
  dsimp only at within positive
  omega

theorem unrecognised_lt (sound : kind.IsSound) {text : Text} {position : Nat}
    (stopped : (ofText kind keywords text).unrecognised = some position) :
    position < text.length := by
  obtain ⟨before, rest, split, _, remains⟩ := tiles_ofText sound keywords text
  rw [stopped] at remains
  obtain ⟨rfl, first, tail, rfl, _⟩ := remains.of_some
  rw [split, List.length_append, List.length_cons]
  omega

theorem Located.isWritten (sound : kind.IsSound) {offset : Nat} {text : Text} {found : Spans}
    (located : Located kind keywords offset text found) :
    ∀ span ∈ found.spans, span.lexeme.IsWritten kind keywords span.text := by
  induction located with
  | nil | unrecognised => exact List.forall_mem_nil _
  | blank isBlank located ih => exact ih
  | token begins visible located ih =>
      exact List.forall_mem_cons.mpr ⟨begins.isWritten sound, ih⟩

theorem isWritten_of_mem (sound : kind.IsSound) (text : Text) :
    ∀ span ∈ (ofText kind keywords text).spans,
      span.lexeme.IsWritten kind keywords span.text :=
  (located_ofText sound keywords text).isWritten sound

theorem isValid_of_mem (sound : kind.IsSound) {text : Text} {span : Span}
    (inside : span ∈ (ofText kind keywords text).spans) (isPredicate : span.lexeme = .predicate) :
    kind.isValid span.text = true :=
  (isWritten_of_mem sound text span inside).isValid isPredicate

end Spans

end EventFilter
