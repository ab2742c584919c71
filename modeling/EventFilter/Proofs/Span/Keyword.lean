import EventFilter.Proofs.Predicate.Longest
import EventFilter.Proofs.Span.Reads

/-!
Keywords and predicates at the beginning of a text.

Operators are looked for before predicates. A predicate is taken apart by this only if it opens
with a keyword: if its name is a keyword, and white space or `!` follows.
-/

namespace EventFilter

namespace Lexeme

variable {operator : Connective} {word following text : Text}

/-- The texts that begin with a keyword behind which white space or `!` stands. -/
def OpensWithKeyword (text : Text) : Prop :=
  ∃ (operator : Connective) (word rest : Text) (next : Char), text = word ++ next :: rest ∧
    word.map Char.toLower = operator.keyword ∧ (Text.isBlank next = true ∨ next = '!')

theorem beginsWithKeyword_iff :
    beginsWithKeyword operator.keyword text = true ↔
      ∃ word following, text = word ++ following ∧ word.map Char.toLower = operator.keyword ∧
        endsKeyword following = true := by
  simp only [beginsWithKeyword, Bool.and_eq_true, beq_iff_eq]
  constructor
  · rintro ⟨spelled, ends⟩
    exact ⟨_, _, (List.take_append_drop _ text).symm, spelled, ends⟩
  · rintro ⟨word, following, rfl, spelled, ends⟩
    have length := congrArg List.length spelled
    rw [List.length_map] at length
    rw [← length, List.take_left, List.drop_left]
    exact ⟨spelled, ends⟩

theorem ne_nil_of_spelled (spelled : word.map Char.toLower = operator.keyword) : word ≠ [] := by
  rintro rfl
  cases operator <;> cases spelled

theorem operator_unique {other : Connective}
    (begins : beginsWithKeyword operator.keyword text = true)
    (also : beginsWithKeyword other.keyword text = true) : operator = other := by
  obtain ⟨word, following, rfl, spelled, _⟩ := beginsWithKeyword_iff.mp begins
  obtain ⟨word', following', same, spelled', _⟩ := beginsWithKeyword_iff.mp also
  obtain ⟨first, rest, rfl⟩ := List.exists_cons_of_ne_nil (ne_nil_of_spelled spelled)
  obtain ⟨first', rest', rfl⟩ := List.exists_cons_of_ne_nil (ne_nil_of_spelled spelled')
  obtain rfl : first = first' := (List.cons.inj same).1
  have heads : operator.keyword.head? = other.keyword.head? := by
    rw [← spelled, ← spelled']
    rfl
  cases operator <;> cases other <;> simp [Connective.keyword] at heads ⊢

theorem keyword?_eq_some_iff {lexeme : Lexeme} {length : Nat} :
    keyword? text = some (lexeme, length) ↔
      ∃ operator : Connective, lexeme = connective operator ∧ length = operator.keyword.length ∧
        beginsWithKeyword operator.keyword text = true := by
  constructor
  · intro found
    unfold keyword? at found
    split at found
    next begins =>
      cases found
      exact ⟨.and, rfl, rfl, begins⟩
    next =>
      split at found
      next begins =>
        cases found
        exact ⟨.or, rfl, rfl, begins⟩
      next =>
        split at found
        next begins =>
          cases found
          exact ⟨.not, rfl, rfl, begins⟩
        next => cases found
  · rintro ⟨operator, rfl, rfl, begins⟩
    have only (other : Connective) (distinct : operator ≠ other) :
        beginsWithKeyword other.keyword text = false := by
      cases also : beginsWithKeyword other.keyword text with
      | false => rfl
      | true => exact absurd (operator_unique begins also) distinct
    cases operator with
    | and =>
        rw [keyword?, if_pos begins]
        rfl
    | or =>
        rw [keyword?, only .and (by decide), if_neg Bool.false_ne_true, if_pos begins]
        rfl
    | not =>
        rw [keyword?, only .and (by decide), if_neg Bool.false_ne_true, only .or (by decide),
          if_neg Bool.false_ne_true, if_pos begins]
        rfl

theorem endsKeyword_of_stops {next : Char} {rest : Text}
    (stops : Text.isBlank next = true ∨ next = '!') : endsKeyword (next :: rest) = true := by
  rcases stops with isBlank | rfl
  · simp [endsKeyword, isBlank]
  · rfl

theorem keyword?_of_spelled (spelled : word.map Char.toLower = operator.keyword)
    (ends : endsKeyword following = true) :
    keyword? (word ++ following) = some (connective operator, word.length) := by
  refine keyword?_eq_some_iff.mpr ⟨operator, rfl, ?_, ?_⟩
  · rw [← spelled, List.length_map]
  · exact beginsWithKeyword_iff.mpr ⟨word, following, rfl, spelled, ends⟩

theorem isAlpha_of_spelled (spelled : word.map Char.toLower = operator.keyword) :
    ∀ letter ∈ word, letter.isAlpha = true := by
  intro letter inside
  have mapped : letter.toLower ∈ operator.keyword := by
    rw [← spelled]
    exact List.mem_map_of_mem inside
  have letters : operator.keyword.all Char.isAlpha = true := by
    cases operator <;> rfl
  exact Text.isAlpha_of_toLower (List.all_eq_true.mp letters _ mapped)

theorem isName_of_spelled (spelled : word.map Char.toLower = operator.keyword) :
    PredicateParts.IsName word := by
  have letters := isAlpha_of_spelled spelled
  obtain ⟨first, rest, rfl⟩ := List.exists_cons_of_ne_nil (ne_nil_of_spelled spelled)
  refine ⟨first, rest, rfl, ?_, ?_⟩
  · simp [PredicateParts.startsName, letters first List.mem_cons_self]
  · rw [List.all_eq_true]
    intro letter inside
    have isAlpha := letters letter (List.mem_cons_of_mem first inside)
    simp [PredicateParts.continuesName, (Text.isAlphanum_iff letter).mpr (.inl isAlpha)]

theorem operator?_of_startsName {first : Char}
    (starts : PredicateParts.startsName first = true) (keywords : Bool) (rest : Text) :
    operator? keywords (first :: rest) =
      if keywords then keyword? (first :: rest) else none := by
  unfold operator?
  split
  case h_6 => rfl
  all_goals
    rename_i same
    rw [(List.cons.inj same).1] at starts
    cases starts

theorem not_opensWithKeyword (missing : keyword? text = none) : ¬OpensWithKeyword text := by
  rintro ⟨operator, word, rest, next, rfl, spelled, stops⟩
  have ends : endsKeyword (next :: rest) = true := endsKeyword_of_stops stops
  rw [keyword?_of_spelled spelled ends] at missing
  cases missing

variable {Effect : Type → Type} {Item : Type}

theorem operator?_keyword (spelled : word.map Char.toLower = operator.keyword)
    (ends : endsKeyword following = true) :
    operator? true (word ++ following) = some (connective operator, word.length) := by
  have found := keyword?_of_spelled spelled ends
  obtain ⟨first, rest, rfl, starts, _⟩ := isName_of_spelled spelled
  rw [List.cons_append] at found ⊢
  rw [operator?_of_startsName starts, if_pos rfl, found]

theorem first?_keyword (kind : PredicateKind Effect Item)
    (spelled : word.map Char.toLower = operator.keyword)
    (ends : endsKeyword following = true) :
    first? kind true (word ++ following) = some (connective operator, word.length) := by
  rw [first?, operator?_keyword spelled ends]

theorem keyword?_eq_none_of_head {first : Char} (notLetter : first.isAlpha = false)
    (rest : Text) : keyword? (first :: rest) = none := by
  cases found : keyword? (first :: rest) with
  | none => rfl
  | some lexeme =>
      obtain ⟨operator, _, _, begins⟩ := keyword?_eq_some_iff.mp found
      obtain ⟨word, following, same, spelled, _⟩ := beginsWithKeyword_iff.mp begins
      obtain ⟨letter, letters, rfl⟩ :=
        List.exists_cons_of_ne_nil (ne_nil_of_spelled spelled)
      obtain rfl : first = letter := (List.cons.inj same).1
      rw [isAlpha_of_spelled spelled first List.mem_cons_self] at notLetter
      cases notLetter

theorem exists_comparison_of_isValid {next : Char} {rest : Text}
    (isName : PredicateParts.IsName word)
    (stops : PredicateParts.continuesName next = false)
    (valid : Predicate.isValid (word ++ next :: rest) = true) :
    ∃ gap comparison, next :: rest = gap ++ comparison ∧ gap.all Text.isBlank ∧
      PredicateParts.IsComparison comparison := by
  obtain ⟨name, gap, comparison, same, beginning, isComparison⟩ :=
    (PredicateParts.isValid_iff_beginning _).mp valid
  have stopsHere : Text.Stops PredicateParts.continuesName (next :: rest) := by
    rintro _ ⟨⟩
    exact stops
  have split := PredicateParts.splitName?_append isName stopsHere
  rw [same, PredicateParts.splitName?_append beginning.isName beginning.stopsName] at split
  simp only [Option.some.injEq, Prod.mk.injEq] at split
  exact ⟨gap, comparison, split.2.symm, beginning.blank, isComparison⟩

theorem not_continuesName_of_endsKeyword {next : Char} {rest : Text}
    (ends : endsKeyword (next :: rest) = true) : PredicateParts.continuesName next = false := by
  simp only [endsKeyword, Bool.or_eq_true, beq_iff_eq] at ends
  obtain (blank | rfl) | rfl := ends
  · exact PredicateParts.not_continuesName_of_isBlank blank
  · decide
  · decide

theorem not_spelled_of_isValid (valid : Predicate.isValid text = true) (extra : Text) :
    (text ++ extra).map Char.toLower ≠ operator.keyword := by
  intro spelled
  obtain ⟨name, gap, comparison, rfl, _, isComparison⟩ :=
    (PredicateParts.isValid_iff_beginning text).mp valid
  obtain ⟨first, rest, rfl, starts⟩ := isComparison.startsOperator
  have isAlpha := isAlpha_of_spelled spelled first (by simp)
  simp only [PredicateParts.startsOperator, Bool.or_eq_true, beq_iff_eq] at starts
  obtain ((rfl | rfl) | rfl) | rfl := starts <;> cases isAlpha

theorem opensWithKeyword_of_endsKeyword {next : Char} {rest : Text}
    (valid : Predicate.isValid (word ++ next :: rest) = true)
    (spelled : word.map Char.toLower = operator.keyword)
    (ends : endsKeyword (next :: rest) = true) : OpensWithKeyword (word ++ next :: rest) := by
  obtain ⟨gap, comparison, same, blank, isComparison⟩ :=
    exists_comparison_of_isValid (isName_of_spelled spelled)
      (not_continuesName_of_endsKeyword ends) valid
  refine ⟨operator, word, rest, next, rfl, spelled, ?_⟩
  simp only [endsKeyword, Bool.or_eq_true, beq_iff_eq] at ends
  obtain (isBlank | rfl) | isNot := ends
  · exact .inl isBlank
  · cases gap with
    | nil =>
        obtain ⟨first, tail, rfl, starts⟩ := isComparison.startsOperator
        cases same
        cases starts
    | cons space spaces =>
        cases same
        cases blank
  · exact .inr isNot

theorem keyword?_append_predicate (valid : Predicate.isValid text = true)
    (plain : ¬OpensWithKeyword text) (following : Text) :
    keyword? (text ++ following) = none := by
  cases found : keyword? (text ++ following) with
  | none => rfl
  | some lexeme =>
      obtain ⟨operator, _, _, begins⟩ := keyword?_eq_some_iff.mp found
      obtain ⟨word, after, same, spelled, ends⟩ := beginsWithKeyword_iff.mp begins
      rcases List.append_eq_append_iff.mp same with ⟨extra, rfl, _⟩ | ⟨extra, rfl, rfl⟩
      · exact absurd spelled (not_spelled_of_isValid valid extra)
      · cases extra with
        | nil =>
            rw [← List.append_nil word, ← List.append_nil (word ++ [])] at spelled
            exact absurd spelled (not_spelled_of_isValid valid [])
        | cons next rest => exact absurd (opensWithKeyword_of_endsKeyword valid spelled ends) plain

theorem startsName_of_isValid (valid : Predicate.isValid text = true) :
    ∃ first rest, text = first :: rest ∧ PredicateParts.startsName first = true := by
  obtain ⟨name, gap, comparison, rfl, beginning, _⟩ :=
    (PredicateParts.isValid_iff_beginning text).mp valid
  obtain ⟨first, rest, rfl, starts, _⟩ := beginning.isName
  exact ⟨first, rest ++ (gap ++ comparison), rfl, starts⟩

theorem visible_of_isValid (valid : Predicate.isValid text = true) :
    Text.Stops Text.isBlank text := by
  obtain ⟨first, rest, rfl, starts⟩ := startsName_of_isValid valid
  rintro _ ⟨⟩
  exact PredicateParts.not_isBlank_of_startsName starts

theorem first?_predicate {keywords : Bool} (valid : Predicate.isValid text = true)
    (plain : keywords = true → ¬OpensWithKeyword text)
    (exact : PredicateParts.scan (text ++ following) = some text.length) :
    first? .standard keywords (text ++ following) = some (predicate, text.length) := by
  obtain ⟨first, rest, rfl, starts⟩ := startsName_of_isValid valid
  have noOperator : operator? keywords (first :: rest ++ following) = none := by
    rw [List.cons_append, operator?_of_startsName starts]
    cases keywords with
    | false => rfl
    | true => exact keyword?_append_predicate valid (plain rfl) following
  have longest : PredicateKind.standard.longest? (first :: rest ++ following) =
      some (first :: rest).length := exact
  rw [first?, noOperator, longest]
  rfl

def BeginsNothing (first : Char) : Prop :=
  first = '=' ∨ first = '>' ∨ first = '<' ∨ first = '"'

theorem first?_of_beginsNothing {first : Char} (starts : BeginsNothing first) (keywords : Bool)
    (rest : Text) : first? .standard keywords (first :: rest) = none := by
  have notLetter : first.isAlpha = false := by
    rcases starts with rfl | rfl | rfl | rfl <;> rfl
  have noKeyword := keyword?_eq_none_of_head notLetter rest
  have noOperator : operator? keywords (first :: rest) = none := by
    rcases starts with rfl | rfl | rfl | rfl <;> simp [operator?, noKeyword]
  have noPredicate : PredicateKind.standard.longest? (first :: rest) = none := by
    rcases starts with rfl | rfl | rfl | rfl <;> rfl
  rw [first?, noOperator, noPredicate]
  rfl

end Lexeme

namespace Spans

variable {keywords : Bool} {text : Text}

/-- The texts of which operators at most are recognised, and then no token begins. -/
def IsStuck (keywords : Bool) (text : Text) : Prop :=
  ∀ offset, (ofTextFrom .standard keywords offset text).unrecognised.isSome ∧
    ∀ span ∈ (ofTextFrom .standard keywords offset text).spans, span.lexeme ≠ .predicate

theorem IsStuck.not_reads {marks : List (Mark Text)} (stuck : IsStuck keywords text) :
    ¬Reads .standard keywords text marks := by
  intro reads
  have stopped := (stuck 0).1
  rw [(reads.run 0).1] at stopped
  cases stopped

theorem IsStuck.blanks {gap : Text} (blank : gap.all Text.isBlank)
    (stuck : IsStuck keywords text) : IsStuck keywords (gap ++ text) := by
  induction gap with
  | nil => exact stuck
  | cons first rest ih =>
      simp only [List.all_cons, Bool.and_eq_true] at blank
      intro offset
      rw [List.cons_append, ofTextFrom, if_pos blank.1]
      exact ih blank.2 (offset + 1)

theorem IsStuck.connective {written : Text} {operator : Connective} (present : written ≠ [])
    (visible : Text.Stops Text.isBlank written)
    (found : Lexeme.first? .standard keywords (written ++ text) =
      some (.connective operator, written.length))
    (stuck : IsStuck keywords text) : IsStuck keywords (written ++ text) := by
  obtain ⟨first, rest, rfl⟩ := List.exists_cons_of_ne_nil present
  intro offset
  have remaining : (rest ++ text).drop ((first :: rest).length - 1) = text := List.drop_left
  rw [List.cons_append] at found ⊢
  rw [ofTextFrom, visible first rfl, if_neg Bool.false_ne_true, found]
  simp only [remaining]
  obtain ⟨stopped, operators⟩ := stuck (offset + (first :: rest).length)
  exact ⟨stopped, List.forall_mem_cons.mpr ⟨Lexeme.noConfusion, operators⟩⟩

theorem isStuck_of_beginsNothing {first : Char} (starts : Lexeme.BeginsNothing first)
    (keywords : Bool) (rest : Text) : IsStuck keywords (first :: rest) := by
  have visible : Text.isBlank first = false := by
    rcases starts with rfl | rfl | rfl | rfl <;> rfl
  intro offset
  rw [ofTextFrom, visible, if_neg Bool.false_ne_true,
    Lexeme.first?_of_beginsNothing starts keywords rest]
  exact ⟨rfl, List.forall_mem_nil _⟩

theorem isStuck_of_isComparison (isComparison : PredicateParts.IsComparison text)
    (keywords : Bool) : IsStuck keywords text := by
  obtain ⟨comparison, tail, reading, _⟩ := isComparison
  rw [PredicateParts.mem_readings_iff.mp reading]
  cases comparison with
  | equal => exact isStuck_of_beginsNothing (.inl rfl) keywords _
  | atLeast | greater => exact isStuck_of_beginsNothing (.inr (.inl rfl)) keywords _
  | atMost | less => exact isStuck_of_beginsNothing (.inr (.inr (.inl rfl))) keywords _
  -- The `!` of `!=` is an operator of its own.
  | notEqual =>
      have visible : Text.Stops Text.isBlank ['!'] := by
        rintro _ ⟨⟩
        rfl
      have found : Lexeme.first? .standard keywords (['!'] ++ '=' :: tail) =
          some (.connective .not, 1) := rfl
      have stuck : IsStuck keywords (['!'] ++ '=' :: tail) :=
        (isStuck_of_beginsNothing (.inl rfl) keywords tail).connective (List.cons_ne_nil '!' [])
          visible found
      exact stuck

theorem isStuck_of_opensWithKeyword (valid : Predicate.isValid text = true)
    (opens : Lexeme.OpensWithKeyword text) : IsStuck true text := by
  have visible := Lexeme.visible_of_isValid valid
  obtain ⟨operator, word, rest, next, rfl, spelled, stops⟩ := opens
  have ends : Lexeme.endsKeyword (next :: rest) = true := Lexeme.endsKeyword_of_stops stops
  obtain ⟨gap, comparison, same, blank, isComparison⟩ :=
    Lexeme.exists_comparison_of_isValid (Lexeme.isName_of_spelled spelled)
      (Lexeme.not_continuesName_of_endsKeyword ends) valid
  have stuck : IsStuck true (next :: rest) := by
    rw [same]
    exact (isStuck_of_isComparison isComparison true).blanks blank
  have present := Lexeme.ne_nil_of_spelled spelled
  have visibleWord : Text.Stops Text.isBlank word := by
    obtain ⟨first, letters, rfl⟩ := List.exists_cons_of_ne_nil present
    exact visible
  exact stuck.connective present visibleWord (Lexeme.first?_keyword .standard spelled ends)

theorem ofText_of_isValid (valid : Predicate.isValid text = true)
    (plain : keywords = true → ¬Lexeme.OpensWithKeyword text) :
    ofText .standard keywords text = ⟨[⟨0, .predicate, text⟩], none⟩ := by
  have visible := Lexeme.visible_of_isValid valid
  have longest : PredicateParts.scan (text ++ []) = some text.length := by
    rw [List.append_nil, PredicateParts.scan_of_isValid valid]
  have found := Lexeme.first?_predicate valid plain longest
  obtain ⟨first, rest, rfl, _⟩ := Lexeme.startsName_of_isValid valid
  rw [List.append_nil] at found
  have remaining : rest.drop ((first :: rest).length - 1) = [] := List.drop_length
  rw [ofText, ofTextFrom, visible first rfl, if_neg Bool.false_ne_true, found]
  simp only [remaining, ofTextFrom, List.take_length]

end Spans

namespace Reads

variable {keywords : Bool} {text following : Text} {marks : List (Mark Text)}

theorem keyword {Effect : Type → Type} {Item : Type} {kind : PredicateKind Effect Item}
    {operator : Connective} {word : Text}
    (spelled : word.map Char.toLower = operator.keyword)
    (ends : Lexeme.endsKeyword following = true) (reads : Reads kind true following marks) :
    Reads kind true (word ++ following) (.connective operator :: marks) := by
  have present := Lexeme.ne_nil_of_spelled spelled
  have visible : Text.Stops Text.isBlank word := by
    obtain ⟨first, rest, rfl, starts, _⟩ := Lexeme.isName_of_spelled spelled
    rintro _ ⟨⟩
    exact PredicateParts.not_isBlank_of_startsName starts
  exact append present visible (Lexeme.first?_keyword kind spelled ends) reads

theorem predicate (valid : Predicate.isValid text = true)
    (plain : keywords = true → ¬Lexeme.OpensWithKeyword text)
    (exact : PredicateParts.scan (text ++ following) = some text.length)
    (reads : Reads .standard keywords following marks) :
    Reads .standard keywords (text ++ following) (.atom text :: marks) := by
  have found := Lexeme.first?_predicate valid plain exact
  obtain ⟨first, rest, rfl, _⟩ := Lexeme.startsName_of_isValid valid
  exact append (List.cons_ne_nil first rest) (Lexeme.visible_of_isValid valid) found reads

theorem whole_predicate (valid : Predicate.isValid text = true)
    (plain : keywords = true → ¬Lexeme.OpensWithKeyword text) :
    Reads .standard keywords text [.atom text] := by
  rw [iff_ofText, Spans.ofText_of_isValid valid plain]
  exact ⟨rfl, rfl⟩

theorem eq_atom_of_isValid (valid : Predicate.isValid text = true)
    (reads : Reads .standard keywords text marks) : marks = [.atom text] := by
  by_cases plain : keywords = true → ¬Lexeme.OpensWithKeyword text
  · exact reads.unique (whole_predicate valid plain)
  · simp only [Classical.not_imp, Classical.not_not] at plain
    obtain ⟨rfl, opens⟩ := plain
    exact absurd reads (Spans.isStuck_of_opensWithKeyword valid opens).not_reads

end Reads

end EventFilter
