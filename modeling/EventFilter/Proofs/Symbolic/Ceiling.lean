import EventFilter.Proofs.Symbolic.Magnitude

/-!
The ceiling on the number of predicates.

The ceiling counts distinct predicate texts: it stops the numbering at the first new text beyond
it, and makes no other difference.
-/

namespace EventFilter.Symbolic

variable {Effect : Type → Type} {Item : Type} {kind : PredicateKind Effect Item}
  {expression : Text} {ceiling : Int} {known : List (Text × Item)} {span : Span}
  {spans : List Span} {symbolic : Symbolic Item} {fault : Fault}

def Overruns (ceiling : Int) (known : List (Text × Item)) (span : Span) : Prop :=
  span.lexeme = .predicate ∧ span.text ∉ known.map Prod.fst ∧ ceiling ≤ known.length

/-- Without a ceiling, the numbering gets to a predicate at a position whose text is new, and before
which it has seen so many others. -/
def ReachesNew (kind : PredicateKind Effect Item) (keywords : Bool) (expression : Text)
    (count : Int) (position : Nat) : Prop :=
  ∃ before span after symbolic,
    (Spans.ofText kind keywords expression).spans = before ++ span :: after ∧
      ofSpansFrom ⟨kind, none⟩ expression [] before = .ok symbolic ∧
      span.lexeme = .predicate ∧ span.start = position ∧ span.text ∉ Spans.predicates before ∧
      (Spans.predicates before).eraseDups.length = count

theorem token_of_overruns (overruns : Overruns ceiling known span) :
    token ⟨kind, some ceiling⟩ expression known span =
      fail expression (.tooManyPredicates ceiling) span.start := by
  obtain ⟨isPredicate, new, reached⟩ := overruns
  refine token_eq_error_iff.mpr ⟨isPredicate, new, .ceiling ?_⟩
  exact Option.filter_eq_some_iff.mpr ⟨rfl, decide_eq_true reached⟩

theorem token_of_not_overruns (admitted : ¬Overruns ceiling known span) :
    token ⟨kind, some ceiling⟩ expression known span =
      token ⟨kind, none⟩ expression known span := by
  obtain ⟨start, lexeme, text⟩ := span
  cases lexeme with
  | connective | openGroup | closeGroup => rfl
  | predicate =>
      by_cases inside : text ∈ known.map Prod.fst
      · simp only [token, number_of_mem inside]
      · have free : Numbering.ceilingReached? ⟨kind, some ceiling⟩ known.length = none := by
          rw [Numbering.ceilingReached?, Option.filter_eq_none_iff]
          rintro _ ⟨⟩
          exact fun reached => admitted ⟨rfl, inside, of_decide_eq_true reached⟩
        simp only [token, number_of_not_mem inside, free]
        rfl

theorem length_of_token {numbering : Numbering Effect Item} {written : Token}
    {after : List (Text × Item)} (ceiling : Int)
    (taken : token numbering expression known span = .ok (written, after)) :
    known.length ≤ after.length ∧
      ((after.length : Int) ≤ max ceiling known.length ↔ ¬Overruns ceiling known span) := by
  obtain ⟨new, rfl, texts, _, _⟩ := token_ok taken
  have count := congrArg List.length texts
  rw [List.length_map] at count
  rw [List.length_append, count]
  by_cases fresh : span.lexeme = .predicate ∧ span.text ∉ known.map Prod.fst
  · have isAtom : span.mark.atom? = some span.text := by
      rw [Span.mark, fresh.1]
      rfl
    rw [isAtom, Option.toList_some, unseen_of_not_mem fresh.2, unseen_nil, List.length_singleton]
    simp only [Overruns, fresh.1, fresh.2, not_false_eq_true, true_and]
    omega
  · have nothing : unseen (known.map Prod.fst) span.mark.atom?.toList = [] := by
      obtain ⟨start, lexeme, text⟩ := span
      cases lexeme with
      | connective | openGroup | closeGroup => rfl
      | predicate =>
          have inside : text ∈ known.map Prod.fst := by simpa using fresh
          exact unseen_of_mem inside
    have admitted : ¬Overruns ceiling known span := fun overruns =>
      fresh ⟨overruns.1, overruns.2.1⟩
    rw [nothing, List.length_nil, Nat.add_zero]
    exact ⟨Nat.le_refl _, iff_of_true (Int.le_max_right _ _) admitted⟩

theorem length_le_of_ofSpansFrom {numbering : Numbering Effect Item}
    (numbered : ofSpansFrom numbering expression known spans = .ok symbolic) :
    known.length ≤ symbolic.items.length := by
  obtain ⟨new, items, _⟩ := (isNumbering_of_ofSpansFrom numbered).new
  rw [items, List.length_append]
  omega

theorem ofSpansFrom_ceiling_eq_ok_iff :
    ofSpansFrom ⟨kind, some ceiling⟩ expression known spans = .ok symbolic ↔
      ofSpansFrom ⟨kind, none⟩ expression known spans = .ok symbolic ∧
        (symbolic.items.length : Int) ≤ max ceiling known.length := by
  induction spans generalizing known symbolic with
  | nil =>
      constructor
      · rintro ⟨⟩
        exact ⟨rfl, Int.le_max_right _ _⟩
      · rintro ⟨⟨⟩, _⟩
        rfl
  | cons span rest ih =>
      simp only [ofSpansFrom_cons_eq_ok_iff]
      constructor
      · rintro ⟨written, after, following, taken, numbered, rfl⟩
        have admitted : ¬Overruns ceiling known span := by
          intro overruns
          rw [token_of_overruns overruns] at taken
          cases taken
        rw [token_of_not_overruns admitted] at taken
        obtain ⟨found, within⟩ := ih.mp numbered
        have step := (length_of_token ceiling taken).2.mpr admitted
        refine ⟨⟨written, after, following, taken, found, rfl⟩, ?_⟩
        dsimp only
        omega
      · rintro ⟨⟨written, after, following, taken, numbered, rfl⟩, within⟩
        dsimp only at within
        have increasing := length_le_of_ofSpansFrom numbered
        obtain ⟨atLeast, admits⟩ := length_of_token ceiling taken
        have admitted := admits.mp (by omega)
        exact ⟨written, after, following, (token_of_not_overruns admitted).trans taken,
          ih.mpr ⟨numbered, by omega⟩, rfl⟩

theorem fails_or_overruns
    (failed : ofSpansFrom ⟨kind, some ceiling⟩ expression [] spans = .error fault) :
    ofSpansFrom ⟨kind, none⟩ expression [] spans = .error fault ∨
      ∃ before span after symbolic, spans = before ++ span :: after ∧
        ofSpansFrom ⟨kind, none⟩ expression [] before = .ok symbolic ∧
        (symbolic.items.length : Int) ≤ max ceiling 0 ∧ Overruns ceiling symbolic.items span ∧
        fail expression (.tooManyPredicates ceiling) span.start =
          (.error fault : Except Fault Unit) := by
  obtain ⟨before, span, after, symbolic, rfl, passed, refused⟩ := ofSpansFrom_eq_error_iff.mp failed
  obtain ⟨numbered, within⟩ := ofSpansFrom_ceiling_eq_ok_iff.mp passed
  by_cases overruns : Overruns ceiling symbolic.items span
  · rw [token_of_overruns overruns] at refused
    cases refused
    exact .inr ⟨before, span, after, symbolic, rfl, numbered, within, overruns, rfl⟩
  · rw [token_of_not_overruns overruns] at refused
    exact .inl (ofSpansFrom_eq_error_iff.mpr
      ⟨before, span, after, symbolic, rfl, numbered, refused⟩)

theorem unreadable_of_unbounded (supplied : kind.IsSupplied) {keywords : Bool}
    (failed : ofSpansFrom ⟨kind, none⟩ expression []
      (Spans.ofText kind keywords expression).spans = .error fault) :
    ∃ value, fault = .unreadableNumeral value := by
  obtain ⟨text, inside, built⟩ := exists_build_eq_error (by rintro _ ⟨⟩) failed
  obtain ⟨span, member, isPredicate, rfl⟩ := Spans.mem_predicates_iff.mp inside
  exact supplied.unreadable_of_build
    (Spans.isValid_of_mem supplied.isSound member isPredicate) built

section Text

variable {keywords : Bool}

theorem ofText_ceiling_eq_ok_iff :
    ofText ⟨kind, some ceiling⟩ keywords expression = .ok symbolic ↔
      ofText ⟨kind, none⟩ keywords expression = .ok symbolic ∧
        (symbolic.items.length : Int) ≤ max ceiling 0 := by
  rw [ofText_eq_ok_iff, ofText_eq_ok_iff, ofSpansFrom_ceiling_eq_ok_iff, and_assoc]
  rfl

theorem ofText_of_reachesNew {position : Nat}
    (reaches : ReachesNew kind keywords expression (max ceiling 0) position) :
    ofText ⟨kind, some ceiling⟩ keywords expression =
      fail expression (.tooManyPredicates ceiling) position := by
  obtain ⟨before, span, after, symbolic, split, passed, isPredicate, rfl, new, count⟩ := reaches
  have length := length_of_ofSpansFrom passed
  rw [← List.mem_eraseDups, ← texts_of_ofSpansFrom passed] at new
  have overruns : Overruns ceiling symbolic.items span := ⟨isPredicate, new, by omega⟩
  have passedBelow : ofSpansFrom ⟨kind, some ceiling⟩ expression [] before = .ok symbolic := by
    refine ofSpansFrom_ceiling_eq_ok_iff.mpr ⟨passed, ?_⟩
    rw [List.length_nil]
    omega
  exact ofText_eq_error_iff.mpr (.inl (ofSpansFrom_eq_error_iff.mpr
    ⟨before, span, after, symbolic, split, passedBelow, token_of_overruns overruns⟩))

theorem ofText_of_not_reachesNew
    (within : ∀ position, ¬ReachesNew kind keywords expression (max ceiling 0) position) :
    ofText ⟨kind, some ceiling⟩ keywords expression = ofText ⟨kind, none⟩ keywords expression := by
  cases outcome : ofText ⟨kind, some ceiling⟩ keywords expression with
  | ok symbolic => exact (ofText_ceiling_eq_ok_iff.mp outcome).1.symm
  | error fault =>
      symm
      rcases ofText_eq_error_iff.mp outcome with numbered | ⟨symbolic, position, passed, stopped⟩
      · rcases fails_or_overruns numbered with
          unbounded | ⟨before, span, after, symbolic, split, passed, room, overruns, _⟩
        · exact ofText_eq_error_iff.mpr (.inl unbounded)
        · obtain ⟨isPredicate, new, reached⟩ := overruns
          have count := length_of_ofSpansFrom passed
          rw [texts_of_ofSpansFrom passed, List.mem_eraseDups] at new
          exact absurd ⟨before, span, after, symbolic, split, passed, isPredicate, rfl, new,
            by omega⟩ (within span.start)
      · obtain ⟨numbered, _⟩ := ofSpansFrom_ceiling_eq_ok_iff.mp passed
        exact ofText_eq_error_iff.mpr (.inr ⟨symbolic, position, numbered, stopped⟩)

theorem unreadable_or_unrecognised (supplied : kind.IsSupplied)
    (failed : ofText ⟨kind, none⟩ keywords expression = .error fault) :
    (∃ value, fault = .unreadableNumeral value) ∨
      ∃ position, fault = .parsing ⟨.unrecognisedToken, some expression, some position⟩ := by
  rcases ofText_eq_error_iff.mp failed with numbered | ⟨_, position, _, stopped, rfl⟩
  · exact .inl (unreadable_of_unbounded supplied numbered)
  · exact .inr ⟨position, fault_of_unrecognised supplied.isSound stopped⟩

theorem fault_of_reachesNew (sound : kind.IsSound) {position : Nat}
    (above : -(Text.digitBound : Int) < ceiling)
    (reaches : ReachesNew kind keywords expression (max ceiling 0) position) :
    (ParsingReason.tooManyPredicates ceiling).fault expression position =
      .parsing ⟨.tooManyPredicates ceiling, some expression, some position⟩ := by
  obtain ⟨before, span, after, symbolic, split, passed, _, rfl, _, count⟩ := reaches
  have reached : ceiling ≤ symbolic.items.length := by
    have length := length_of_ofSpansFrom passed
    omega
  have inside : span ∈ (Spans.ofText kind keywords expression).spans := by
    rw [split]
    exact List.mem_append_right before List.mem_cons_self
  refine ParsingReason.fault_of_within
    (Nat.le_of_lt (Spans.start_lt_of_mem sound span inside)) ?_
  exact List.forall_mem_singleton.mpr
    (isWritableIn_of_reached reached (length_items_le sound split passed) above)

theorem ofText_overruns_iff (supplied : kind.IsSupplied) {position : Nat}
    (above : -(Text.digitBound : Int) < ceiling) :
    ofText ⟨kind, some ceiling⟩ keywords expression =
        .error (.parsing ⟨.tooManyPredicates ceiling, some expression, some position⟩) ↔
      ReachesNew kind keywords expression (max ceiling 0) position := by
  constructor
  · intro failed
    by_cases reached : ∃ place, ReachesNew kind keywords expression (max ceiling 0) place
    · obtain ⟨place, reaches⟩ := reached
      rw [ofText_of_reachesNew reaches, fail,
        fault_of_reachesNew supplied.isSound above reaches] at failed
      cases failed
      exact reaches
    · rw [ofText_of_not_reachesNew (not_exists.mp reached)] at failed
      rcases unreadable_or_unrecognised supplied failed with ⟨_, ⟨⟩⟩ | ⟨_, ⟨⟩⟩
  · intro reaches
    rw [ofText_of_reachesNew reaches, fail, fault_of_reachesNew supplied.isSound above reaches]

theorem ofText_unwritten_iff (supplied : kind.IsSupplied)
    (below : ceiling ≤ -(Text.digitBound : Int)) :
    ofText ⟨kind, some ceiling⟩ keywords expression = .error .tooManyDigits ↔
      ∃ position, ReachesNew kind keywords expression (max ceiling 0) position := by
  constructor
  · intro failed
    by_contra reached
    rw [ofText_of_not_reachesNew (not_exists.mp reached)] at failed
    rcases unreadable_or_unrecognised supplied failed with ⟨_, ⟨⟩⟩ | ⟨_, ⟨⟩⟩
  · rintro ⟨position, reaches⟩
    have positive := Text.digitBound_pos
    rw [ofText_of_reachesNew reaches, fail]
    refine congrArg Except.error (ParsingReason.fault_of_not_writable List.mem_cons_self ?_)
    exact Text.isWritableIn_eq_false_iff.mpr ⟨.inl (by omega), by omega⟩

/-- Under a ceiling, the numbering stops at the first new predicate behind as many others as the
ceiling says, and in every other case gives what it gives without one. So a higher ceiling leaves
what has been numbered as it is. A ceiling so far below zero that it has too many digits for the
message is not named in it. -/
theorem ofText_ceiling (supplied : kind.IsSupplied) (keywords : Bool) (expression : Text)
    (ceiling : Int) :
    (-(Text.digitBound : Int) < ceiling → ∀ position,
      ofText ⟨kind, some ceiling⟩ keywords expression =
          .error (.parsing ⟨.tooManyPredicates ceiling, some expression, some position⟩) ↔
        ReachesNew kind keywords expression (max ceiling 0) position) ∧
    (ceiling ≤ -(Text.digitBound : Int) →
      (ofText ⟨kind, some ceiling⟩ keywords expression = .error .tooManyDigits ↔
        ∃ position, ReachesNew kind keywords expression (max ceiling 0) position)) ∧
    ((∀ position, ¬ReachesNew kind keywords expression (max ceiling 0) position) →
      ofText ⟨kind, some ceiling⟩ keywords expression =
        ofText ⟨kind, none⟩ keywords expression) ∧
    ∀ symbolic, ofText ⟨kind, some ceiling⟩ keywords expression = .ok symbolic →
      ofText ⟨kind, none⟩ keywords expression = .ok symbolic ∧
      ∀ higher, ceiling ≤ higher →
        ofText ⟨kind, some higher⟩ keywords expression = .ok symbolic := by
  refine ⟨fun above position => ofText_overruns_iff supplied above,
    ofText_unwritten_iff supplied, ofText_of_not_reachesNew, ?_⟩
  intro symbolic numbered
  obtain ⟨unbounded, within⟩ := ofText_ceiling_eq_ok_iff.mp numbered
  refine ⟨unbounded, ?_⟩
  intro higher above
  exact ofText_ceiling_eq_ok_iff.mpr ⟨unbounded, by omega⟩

theorem ofText_ceiling_repeated :
    PredicateKind.standard.IsSupplied ∧
    ofText ⟨.standard, some 1⟩ true "A==x && A==x && B==y".toList =
      .error (.parsing
        ⟨.tooManyPredicates 1, some "A==x && A==x && B==y".toList, some 16⟩) ∧
    ofText ⟨.standard, some 2⟩ true "A==x && A==x && B==y".toList =
      ofText ⟨.standard, none⟩ true "A==x && A==x && B==y".toList ∧
    ∃ symbolic, ofText ⟨.standard, some 2⟩ true "A==x && A==x && B==y".toList = .ok symbolic ∧
      ofText ⟨.standard, some 7⟩ true "A==x && A==x && B==y".toList = .ok symbolic := by
  have spans : Spans.ofText .standard true "A==x && A==x && B==y".toList =
      ⟨[⟨0, .predicate, "A==x".toList⟩, ⟨5, .connective .and, "&&".toList⟩,
        ⟨8, .predicate, "A==x".toList⟩, ⟨13, .connective .and, "&&".toList⟩] ++
        [⟨16, .predicate, "B==y".toList⟩], none⟩ := by
    decide +kernel
  have reaches : ReachesNew .standard true "A==x && A==x && B==y".toList (max 1 0) 16 := by
    rw [ReachesNew, spans]
    exact ⟨_, _, [], _, rfl, rfl, rfl, rfl, by decide, by decide⟩
  obtain ⟨symbolic, numbered⟩ : ∃ symbolic,
      ofText ⟨.standard, some 2⟩ true "A==x && A==x && B==y".toList = .ok symbolic := by
    rw [ofText, spans]
    exact ⟨_, rfl⟩
  have above := Text.neg_digitBound_lt
  refine ⟨.standard, ?_, ?_, symbolic, numbered, ?_⟩
  · exact ((ofText_ceiling .standard true _ 1).1 (above 1) 16).mpr reaches
  · refine (ofText_ceiling .standard true _ 2).2.2.1 fun position reached => ?_
    have failed := ((ofText_ceiling .standard true _ 2).1 (above 2) position).mpr reached
    rw [numbered] at failed
    cases failed
  · exact ((ofText_ceiling .standard true _ 2).2.2.2 symbolic numbered).2 7 (by decide)

theorem not_ofText_ceiling :
    let ceiling : Int := -(Text.digitBound : Int)
    ReachesNew .standard true "A==1".toList (max ceiling 0) 0 ∧
      ¬∃ fault, ofText ⟨.standard, some ceiling⟩ true "A==1".toList = .error (.parsing fault) := by
  intro ceiling
  have spans : Spans.ofText .standard true "A==1".toList =
      ⟨[⟨0, .predicate, "A==1".toList⟩], none⟩ := by
    decide +kernel
  have below : ceiling ≤ -(Text.digitBound : Int) := Int.le_refl _
  have nothing : max ceiling 0 = 0 :=
    Int.max_eq_right (Int.neg_nonpos_of_nonneg (Int.natCast_nonneg _))
  have reaches : ReachesNew .standard true "A==1".toList (max ceiling 0) 0 := by
    rw [nothing, ReachesNew, spans]
    exact ⟨[], _, [], ⟨[], []⟩, rfl, rfl, rfl, rfl, by decide, by decide⟩
  refine ⟨reaches, ?_⟩
  rintro ⟨fault, failed⟩
  rw [(ofText_unwritten_iff .standard below).mpr ⟨0, reaches⟩] at failed
  cases failed

end Text

end EventFilter.Symbolic
