import EventFilter.Proofs.Span.Reads
import EventFilter.Symbolic

/-!
The numbering of predicates.

The distinct predicate texts of an expression become its items in the order in which they are
first seen, and each token of the expression refers to the item of its text.
-/

namespace EventFilter.Symbolic

def unseen (seen texts : List Text) : List Text :=
  (texts.filter fun text => text ∉ seen).eraseDups

def place {Item : Type} (items : List (Text × Item)) (text : Text) : Int :=
  (items.findIdx fun item => item.1 = text : Nat)

section Unseen

variable {text : Text} {seen texts rest : List Text}

@[simp] theorem unseen_nil : unseen seen [] = [] := by
  simp [unseen]

theorem unseen_nothing (texts : List Text) : unseen [] texts = texts.eraseDups := by
  rw [unseen, List.filter_eq_self.mpr (by simp)]

theorem unseen_of_mem (known : text ∈ seen) : unseen seen (text :: rest) = unseen seen rest := by
  simp [unseen, known]

theorem unseen_of_not_mem (new : text ∉ seen) :
    unseen seen (text :: rest) = text :: unseen (seen ++ [text]) rest := by
  have same : (rest.filter fun other => other ∉ seen).filter (fun other => !other == text) =
      rest.filter fun other => other ∉ seen ++ [text] := by
    rw [List.filter_filter]
    apply List.filter_congr
    intro other _
    by_cases isText : other = text <;> simp [isText]
  rw [unseen, unseen, List.filter_cons_of_pos (by simpa using new), List.eraseDups_cons, same]

theorem unseen_option (name : Option Text) (seen rest : List Text) :
    unseen seen (name.toList ++ rest) =
      unseen seen name.toList ++ unseen (seen ++ unseen seen name.toList) rest := by
  cases name with
  | none => simp
  | some text =>
      by_cases known : text ∈ seen
      · simp [unseen_of_mem known]
      · simp [unseen_of_not_mem known]

end Unseen

section Place

variable {Item : Type} {items more : List (Text × Item)} {text : Text}

theorem findIdx_lt_of_mem (known : text ∈ items.map Prod.fst) :
    items.findIdx (fun item => item.1 = text) < items.length := by
  obtain ⟨item, inside, rfl⟩ := List.mem_map.mp known
  exact List.findIdx_lt_length_of_exists ⟨item, inside, by simp⟩

theorem distinct_of_not_mem (new : text ∉ items.map Prod.fst) :
    ∀ item ∈ items, item.1 ≠ text := by
  rintro item inside rfl
  exact new (List.mem_map_of_mem inside)

theorem place_append (known : text ∈ items.map Prod.fst) :
    place (items ++ more) text = place items text := by
  simp [place, List.findIdx_append, findIdx_lt_of_mem known]

theorem place_new (new : text ∉ items.map Prod.fst) (item : Item) :
    place (items ++ [(text, item)]) text = items.length := by
  have missing : items.findIdx (fun other => other.1 = text) = items.length := by
    rw [List.findIdx_eq_length]
    intro other inside
    exact decide_eq_false (distinct_of_not_mem new other inside)
  simp [place, List.findIdx_append, missing]

theorem getElem?_place (known : text ∈ items.map Prod.fst) :
    ∃ item, items[(place items text).toNat]? = some (text, item) := by
  have found := findIdx_lt_of_mem known
  have same : items[items.findIdx fun item => item.1 = text].1 = text :=
    of_decide_eq_true (List.findIdx_getElem (w := found))
  refine ⟨items[items.findIdx fun item => item.1 = text].2, ?_⟩
  rw [place, Int.toNat_natCast, List.getElem?_eq_getElem found, Option.some_inj]
  exact Prod.ext same rfl

end Place

section Numbering

variable {Effect : Type → Type} {Item : Type} {numbering : Numbering Effect Item}
  {expression text : Text} {known : List (Text × Item)} {position : Nat}

theorem number_of_mem (inside : text ∈ known.map Prod.fst) :
    number numbering expression known position text =
      .ok (known.findIdx fun item => item.1 = text, known) := by
  have found : known.findIdx? (fun item => item.1 = text) =
      some (known.findIdx fun item => item.1 = text) :=
    List.findIdx?_eq_some_iff_findIdx_eq.mpr ⟨findIdx_lt_of_mem inside, rfl⟩
  rw [number, found]

theorem number_of_not_mem (new : text ∉ known.map Prod.fst) :
    number numbering expression known position text =
      match numbering.ceilingReached? known.length with
      | some ceiling => fail expression (.tooManyPredicates ceiling) position
      | none => (do
        let item ← numbering.kind.build text
        pure (known.length, known ++ [(text, item)])) := by
  have missing : known.findIdx? (fun other => other.1 = text) = none := by
    rw [List.findIdx?_eq_none_iff]
    intro other inside
    exact decide_eq_false (distinct_of_not_mem new other inside)
  rewrite [number, missing]
  rfl

theorem number_ok {index : Nat} {after : List (Text × Item)}
    (numbered : number numbering expression known position text = .ok (index, after)) :
    ∃ new, after = known ++ new ∧
      new.map Prod.fst = unseen (known.map Prod.fst) [text] ∧
      (∀ entry ∈ new, numbering.kind.build entry.1 = .ok entry.2) ∧
      ∀ more, (index : Int) = place (after ++ more) text := by
  by_cases inside : text ∈ known.map Prod.fst
  · rw [number_of_mem inside] at numbered
    cases numbered
    refine ⟨[], by simp, by simp [unseen_of_mem inside], by simp, ?_⟩
    intro more
    rw [place_append inside, place]
  · rw [number_of_not_mem inside] at numbered
    split at numbered
    · cases numbered
    · cases built : numbering.kind.build text with
      | error fault =>
          rw [built] at numbered
          cases numbered
      | ok item =>
          rw [built] at numbered
          cases numbered
          refine ⟨[(text, item)], rfl, by simp [unseen_of_not_mem inside], by simpa using built, ?_⟩
          intro more
          rw [place_append (by simp), place_new inside]

/-- What numbering the predicates of a token list comes to, if some are known before. -/
structure IsNumbering (kind : PredicateKind Effect Item) (known : List (Text × Item))
    (marks : List (Mark Text)) (symbolic : Symbolic Item) : Prop where
  new : ∃ new, symbolic.items = known ++ new ∧
    new.map Prod.fst = unseen (known.map Prod.fst) (marks.filterMap Mark.atom?) ∧
    ∀ entry ∈ new, kind.build entry.1 = .ok entry.2
  tokens : symbolic.tokens = marks.map fun mark => (mark.map (place symbolic.items)).token

theorem token_ok {span : Span} {written : Token} {after : List (Text × Item)}
    (taken : token numbering expression known span = .ok (written, after)) :
    ∃ new, after = known ++ new ∧
      new.map Prod.fst = unseen (known.map Prod.fst) span.mark.atom?.toList ∧
      (∀ entry ∈ new, numbering.kind.build entry.1 = .ok entry.2) ∧
      ∀ more, written = (span.mark.map (place (after ++ more))).token := by
  obtain ⟨start, lexeme, text⟩ := span
  cases lexeme with
  | connective | openGroup | closeGroup =>
      cases taken
      exact ⟨[], by simp, rfl, by simp, fun more => rfl⟩
  | predicate =>
      simp only [token, bind, Except.bind] at taken
      split at taken
      · cases taken
      · rename_i numbered
        cases taken
        obtain ⟨new, extended, texts, built, placed⟩ := number_ok numbered
        exact ⟨new, extended, texts, built, fun more => congrArg Token.symbol (placed more)⟩

theorem atoms_cons (span : Span) (rest : List Span) :
    ((span :: rest).map Span.mark).filterMap Mark.atom? =
      span.mark.atom?.toList ++ (rest.map Span.mark).filterMap Mark.atom? := by
  rw [List.map_cons, List.filterMap_cons]
  cases span.mark.atom? <;> rfl

theorem ofSpansFrom_cons_eq_ok_iff {span : Span} {rest : List Span} {symbolic : Symbolic Item} :
    ofSpansFrom numbering expression known (span :: rest) = .ok symbolic ↔
      ∃ written after following,
        token numbering expression known span = .ok (written, after) ∧
          ofSpansFrom numbering expression after rest = .ok following ∧
          symbolic = ⟨⟨written, span.start⟩ :: following.placed, following.items⟩ := by
  simp only [ofSpansFrom, bind, Except.bind]
  constructor
  · intro found
    split at found
    next => cases found
    next taken =>
      split at found
      next => cases found
      next following numbered =>
        cases found
        exact ⟨_, _, following, taken, numbered, rfl⟩
  · rintro ⟨written, after, following, taken, numbered, rfl⟩
    rw [taken]
    simp only [numbered]
    rfl

theorem isNumbering_of_ofSpansFrom {spans : List Span} {symbolic : Symbolic Item}
    (found : ofSpansFrom numbering expression known spans = .ok symbolic) :
    IsNumbering numbering.kind known (spans.map Span.mark) symbolic := by
  induction spans generalizing known symbolic with
  | nil =>
      cases found
      exact ⟨⟨[], by simp, rfl, by simp⟩, rfl⟩
  | cons span rest ih =>
      obtain ⟨head, after, following, taken, numbered, rfl⟩ :=
        ofSpansFrom_cons_eq_ok_iff.mp found
      obtain ⟨first, extended, firstTexts, firstBuilt, written⟩ := token_ok taken
      obtain ⟨⟨later, items, laterTexts, laterBuilt⟩, tokens⟩ := ih numbered
      refine ⟨⟨first ++ later, ?_, ?_, ?_⟩, ?_⟩
      · rw [items, extended, List.append_assoc]
      · rw [atoms_cons, unseen_option, List.map_append, firstTexts, laterTexts, extended,
          List.map_append, firstTexts]
      · intro entry inside
        rcases List.mem_append.mp inside with early | late
        · exact firstBuilt entry early
        · exact laterBuilt entry late
      -- Items that are added later leave the number of the first token as it is.
      · have head := written later
        rw [← items] at head
        rw [Symbolic.tokens, List.map_cons, List.map_cons, List.map_cons, ← tokens, ← head]
        rfl

theorem IsNumbering.map_fst_items {kind : PredicateKind Effect Item}
    {marks : List (Mark Text)} {symbolic : Symbolic Item}
    (isNumbering : IsNumbering kind [] marks symbolic) :
    symbolic.items.map Prod.fst = (marks.filterMap Mark.atom?).eraseDups := by
  obtain ⟨new, items, texts, _⟩ := isNumbering.new
  rw [items, List.nil_append, texts]
  exact unseen_nothing _

theorem texts_of_ofSpansFrom {spans : List Span} {symbolic : Symbolic Item}
    (found : ofSpansFrom numbering expression [] spans = .ok symbolic) :
    symbolic.items.map Prod.fst = (Spans.predicates spans).eraseDups :=
  (isNumbering_of_ofSpansFrom found).map_fst_items

theorem length_of_ofSpansFrom {spans : List Span} {symbolic : Symbolic Item}
    (found : ofSpansFrom numbering expression [] spans = .ok symbolic) :
    symbolic.items.length = (Spans.predicates spans).eraseDups.length := by
  rw [← texts_of_ofSpansFrom found, List.length_map]

theorem IsNumbering.mem_items_iff {kind : PredicateKind Effect Item} {marks : List (Mark Text)}
    {symbolic : Symbolic Item} (isNumbering : IsNumbering kind [] marks symbolic) {name : Text} :
    name ∈ symbolic.items.map Prod.fst ↔ name ∈ marks.filterMap Mark.atom? := by
  rw [isNumbering.map_fst_items, List.mem_eraseDups]

theorem IsNumbering.build {kind : PredicateKind Effect Item} {marks : List (Mark Text)}
    {symbolic : Symbolic Item} (isNumbering : IsNumbering kind [] marks symbolic) :
    ∀ entry ∈ symbolic.items, kind.build entry.1 = .ok entry.2 := by
  obtain ⟨new, items, _, built⟩ := isNumbering.new
  rw [items]
  exact built

theorem IsNumbering.buildable {kind : PredicateKind Effect Item} {marks : List (Mark Text)}
    {symbolic : Symbolic Item} (isNumbering : IsNumbering kind [] marks symbolic) :
    ∀ name ∈ marks.filterMap Mark.atom?, ∃ item, kind.build name = .ok item := by
  intro name inside
  obtain ⟨item, member, rfl⟩ := List.mem_map.mp (isNumbering.mem_items_iff.mpr inside)
  exact ⟨item.2, isNumbering.build item member⟩

theorem ofText_eq_ok_iff {keywords : Bool} {symbolic : Symbolic Item} :
    ofText numbering keywords expression = .ok symbolic ↔
      (Spans.ofText numbering.kind keywords expression).unrecognised = none ∧
        ofSpansFrom numbering expression []
          (Spans.ofText numbering.kind keywords expression).spans = .ok symbolic := by
  simp only [ofText, bind, Except.bind]
  cases numbered : ofSpansFrom numbering expression []
      (Spans.ofText numbering.kind keywords expression).spans with
  | error fault => simp
  | ok other =>
      cases recognised : (Spans.ofText numbering.kind keywords expression).unrecognised with
      | none => simp [pure, Except.pure]
      | some position => simp [fail]

theorem reads_of_ofText {keywords : Bool} {symbolic : Symbolic Item}
    (found : ofText numbering keywords expression = .ok symbolic) :
    ∃ marks, Reads numbering.kind keywords expression marks ∧
      IsNumbering numbering.kind [] marks symbolic := by
  obtain ⟨recognised, numbered⟩ := ofText_eq_ok_iff.mp found
  exact ⟨_, Reads.of_run recognised, isNumbering_of_ofSpansFrom numbered⟩

end Numbering

end EventFilter.Symbolic
