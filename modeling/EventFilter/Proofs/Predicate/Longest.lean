import EventFilter.Proofs.Predicate.Comparison
import EventFilter.Symbolic
import EventFilter.Text.Letter

/-!
The longest predicate at the beginning of a text.

`scan` goes through a text once, `isValid` looks at a text as a whole. The length that `scan` finds
is the greatest at which the beginning of the text is valid, so the kinds of predicates that differ
in how they find it compile every expression alike.
-/

namespace EventFilter

def Text.slice (text : Text) (start stop : Nat) : Text :=
  (text.take stop).drop start

namespace PredicateParts

structure Beginning (name gap rest : Text) : Prop where
  isName : IsName name
  blank : gap.all Text.isBlank
  stopsBlank : Text.Stops Text.isBlank rest
  stopsName : Text.Stops continuesName (gap ++ rest)

/-- The predicates that end in `>=` or `<=`, where `=` is the operand of `>` or `<`. -/
def IsBareBound (text : Text) : Prop :=
  ∃ name gap bound, text = name ++ (gap ++ bound) ∧ IsName name ∧ gap.all Text.isBlank ∧
    IsBound bound

def startsOperator (character : Char) : Bool :=
  character == '=' || character == '!' || character == '>' || character == '<'

theorem not_isBlank_of_continuesName {character : Char}
    (continues : continuesName character = true) : Text.isBlank character = false := by
  have same (other : Char) : character = other ↔ character.toNat = other.toNat :=
    Char.toNat_inj.symm
  simp [continuesName, Text.isAlphanum_iff, Text.isAlpha_iff, Text.isUpper_iff,
    Text.isLower_iff, Text.isDigit_iff, same] at continues
  simp [Text.isBlank, Text.inRanges, Text.blankRanges]
  omega

theorem not_continuesName_of_isBlank {character : Char} (blank : Text.isBlank character = true) :
    continuesName character = false := by
  cases continues : continuesName character with
  | false => rfl
  | true =>
      rw [not_isBlank_of_continuesName continues] at blank
      exact blank.symm

theorem continuesName_of_startsName {character : Char} (starts : startsName character = true) :
    continuesName character = true := by
  simp only [startsName, Bool.or_eq_true, beq_iff_eq] at starts
  rcases starts with isAlpha | rfl
  · simp [continuesName, (Text.isAlphanum_iff character).mpr (.inl isAlpha)]
  · rfl

theorem not_isBlank_of_startsName {character : Char} (starts : startsName character = true) :
    Text.isBlank character = false :=
  not_isBlank_of_continuesName (continuesName_of_startsName starts)

theorem not_isBlank_of_startsOperator {character : Char}
    (starts : startsOperator character = true) : Text.isBlank character = false := by
  simp only [startsOperator, Bool.or_eq_true, beq_iff_eq] at starts
  obtain ((rfl | rfl) | rfl) | rfl := starts <;> decide

theorem not_continuesName_of_startsOperator {character : Char}
    (starts : startsOperator character = true) : continuesName character = false := by
  simp only [startsOperator, Bool.or_eq_true, beq_iff_eq] at starts
  obtain ((rfl | rfl) | rfl) | rfl := starts <;> decide

theorem beginning_of_startsOperator {name gap : Text} {first : Char} {rest : Text}
    (isName : IsName name) (blank : gap.all Text.isBlank)
    (starts : startsOperator first = true) : Beginning name gap (first :: rest) := by
  refine ⟨isName, blank, ?_, ?_⟩
  · rintro next ⟨⟩
    exact not_isBlank_of_startsOperator starts
  · cases gap with
    | nil =>
        rintro next ⟨⟩
        exact not_continuesName_of_startsOperator starts
    | cons space spaces =>
        rintro next ⟨⟩
        simp only [List.all_cons, Bool.and_eq_true] at blank
        exact not_continuesName_of_isBlank blank.1

theorem splitName?_append {name following : Text} (isName : IsName name)
    (stops : Text.Stops continuesName following) :
    splitName? (name ++ following) = some (name, following) := by
  obtain ⟨first, rest, rfl, starts, continues⟩ := isName
  simp [splitName?, starts, Text.takeWhile_append_of_stops continues stops,
    Text.dropWhile_append_of_stops continues stops]

theorem beginning_of_splitName? {text name rest : Text}
    (split : splitName? text = some (name, rest)) :
    ∃ gap comparison, text = name ++ (gap ++ comparison) ∧ Beginning name gap comparison := by
  unfold splitName? at split
  split at split
  · simp at split
  · rename_i first tail
    split at split
    · rename_i starts
      simp only [Option.some.injEq, Prod.mk.injEq] at split
      obtain ⟨rfl, rfl⟩ := split
      obtain ⟨name, after, rfl, continues, stopsName⟩ := Text.exists_split continuesName tail
      rw [Text.takeWhile_append_of_stops continues stopsName]
      obtain ⟨gap, comparison, rfl, blank, stopsBlank⟩ := Text.exists_split Text.isBlank after
      exact ⟨gap, comparison, rfl, ⟨first, name, rfl, starts, continues⟩, blank, stopsBlank,
        stopsName⟩
    · simp at split

theorem scan_beginning {name gap rest : Text} (beginning : Beginning name gap rest) :
    scan (name ++ (gap ++ rest)) =
      (comparisonLength? rest).map fun length => name.length + gap.length + length := by
  rw [scan, splitName?_append beginning.isName beginning.stopsName]
  simp only [Option.bind_eq_bind, Option.bind_some,
    Text.takeWhile_append_of_stops beginning.blank beginning.stopsBlank,
    Text.dropWhile_append_of_stops beginning.blank beginning.stopsBlank]
  rw [comparisonLength?, List.map_findSome?]
  congr 1
  funext reading
  simp [Function.comp_def, Nat.add_assoc]

theorem isValid_beginning {name gap rest : Text} (beginning : Beginning name gap rest) :
    Predicate.isValid (name ++ (gap ++ rest)) = true ↔ IsComparison rest := by
  rw [Predicate.isValid, parse?, splitName?_append beginning.isName beginning.stopsName]
  simp only [Option.bind_eq_bind, Option.bind_some,
    Text.dropWhile_append_of_stops beginning.blank beginning.stopsBlank]
  rw [List.findSome?_isSome_iff]
  simp [IsComparison, isSome_wholeOperand?_iff]

theorem Beginning.take {name gap rest : Text} (beginning : Beginning name gap rest)
    (length : Nat) : Beginning name gap (rest.take length) := by
  refine ⟨beginning.isName, beginning.blank, Text.stops_take beginning.stopsBlank length, ?_⟩
  rw [← List.take_length_add_append]
  exact Text.stops_take beginning.stopsName (gap.length + length)

theorem Beginning.append {name gap rest : Text} (beginning : Beginning name gap rest)
    (present : rest ≠ []) (following : Text) : Beginning name gap (rest ++ following) := by
  refine ⟨beginning.isName, beginning.blank,
    Text.stops_append present beginning.stopsBlank following, ?_⟩
  rw [← List.append_assoc]
  exact Text.stops_append (List.append_ne_nil_of_right_ne_nil gap present)
    beginning.stopsName following

theorem Beginning.unique {name gap rest name' gap' rest' : Text}
    (beginning : Beginning name gap rest) (beginning' : Beginning name' gap' rest')
    (same : name ++ (gap ++ rest) = name' ++ (gap' ++ rest')) :
    name = name' ∧ gap = gap' ∧ rest = rest' := by
  have split := splitName?_append beginning.isName beginning.stopsName
  rw [same, splitName?_append beginning'.isName beginning'.stopsName] at split
  simp only [Option.some.injEq, Prod.mk.injEq] at split
  obtain ⟨sameName, sameAfter⟩ := split
  have sameRest := congrArg (List.dropWhile Text.isBlank) sameAfter
  rw [Text.dropWhile_append_of_stops beginning.blank beginning.stopsBlank,
    Text.dropWhile_append_of_stops beginning'.blank beginning'.stopsBlank] at sameRest
  subst sameRest
  exact ⟨sameName.symm, (List.append_cancel_right sameAfter).symm, rfl⟩

theorem IsComparison.startsOperator {text : Text} (isComparison : IsComparison text) :
    ∃ first rest, text = first :: rest ∧ startsOperator first = true := by
  obtain ⟨comparison, tail, reading, _⟩ := isComparison
  rw [mem_readings_iff.mp reading]
  cases comparison <;> exact ⟨_, _, rfl, rfl⟩

theorem IsComparison.ne_nil {text : Text} (isComparison : IsComparison text) : text ≠ [] := by
  obtain ⟨first, rest, rfl, _⟩ := isComparison.startsOperator
  simp

theorem isValid_iff_beginning (text : Text) :
    Predicate.isValid text = true ↔
      ∃ name gap comparison, text = name ++ (gap ++ comparison) ∧
        Beginning name gap comparison ∧ IsComparison comparison := by
  constructor
  · intro valid
    cases split : splitName? text with
    | none => simp [Predicate.isValid, parse?, split] at valid
    | some parts =>
        obtain ⟨gap, comparison, rfl, beginning⟩ := beginning_of_splitName? split
        exact ⟨_, gap, comparison, rfl, beginning, (isValid_beginning beginning).mp valid⟩
  · rintro ⟨name, gap, comparison, rfl, beginning, isComparison⟩
    exact (isValid_beginning beginning).mpr isComparison

theorem isBareBound_iff {name gap rest : Text} (beginning : Beginning name gap rest) :
    IsBareBound (name ++ (gap ++ rest)) ↔ IsBound rest := by
  constructor
  · rintro ⟨name', gap', bound, same, isName, blank, isBound⟩
    have beginning' : Beginning name' gap' bound := by
      rcases isBound with rfl | rfl <;> exact beginning_of_startsOperator isName blank rfl
    obtain ⟨_, _, rfl⟩ := beginning.unique beginning' same
    exact isBound
  · intro isBound
    exact ⟨name, gap, rest, rfl, beginning.isName, beginning.blank, isBound⟩

theorem scan_append {text : Text} (valid : Predicate.isValid text) (following : Text) :
    ∃ length, scan (text ++ following) = some length ∧ text.length ≤ length ∧
      (length = text.length ↔
        (text.getLast? = some '"' ∨ Text.Stops isBare following) ∧
          (IsBareBound text → operandLength? (following.dropWhile Text.isBlank) = none)) := by
  obtain ⟨name, gap, comparison, rfl, beginning, isComparison⟩ :=
    (isValid_iff_beginning text).mp valid
  obtain ⟨length, found, atLeast, exactly⟩ := comparisonLength?_append isComparison following
  have present := isComparison.ne_nil
  have last : (name ++ (gap ++ comparison)).getLast? = comparison.getLast? := by
    rw [← List.append_assoc, Text.getLast?_append_of_ne_nil present]
  refine ⟨name.length + gap.length + length, ?_, ?_, ?_⟩
  · rw [List.append_assoc, List.append_assoc,
      scan_beginning (beginning.append present following), found, Option.map_some]
  · simp only [List.length_append]
    omega
  · rw [last, isBareBound_iff beginning, ← exactly]
    simp only [List.length_append]
    omega

theorem not_isBareBound_of_getLast? {text : Text} (last : text.getLast? ≠ some '=') :
    ¬IsBareBound text := by
  rintro ⟨name, gap, bound, rfl, _, _, isBound⟩
  apply last
  rcases isBound with rfl | rfl <;> simp

theorem scan_append_exact {text following : Text} (valid : Predicate.isValid text)
    (unbound : ¬IsBareBound text)
    (ends : text.getLast? = some '"' ∨ Text.Stops isBare following) :
    scan (text ++ following) = some text.length := by
  obtain ⟨length, found, _, exactly⟩ := scan_append valid following
  rw [found, exactly.mpr ⟨ends, fun isBound => absurd isBound unbound⟩]

theorem scan_sound {text : Text} {length : Nat} (found : scan text = some length) :
    Predicate.isValid (text.take length) = true := by
  cases split : splitName? text with
  | none => simp [scan, split] at found
  | some parts =>
      obtain ⟨gap, comparison, rfl, beginning⟩ := beginning_of_splitName? split
      rw [scan_beginning beginning] at found
      obtain ⟨reached, measured, rfl⟩ := Option.map_eq_some_iff.mp found
      rw [Nat.add_assoc, List.take_length_add_append, List.take_length_add_append]
      exact (isValid_beginning (beginning.take reached)).mpr (comparisonLength?_sound measured)

theorem scan_reaches {text : Text} {length : Nat} (within : length ≤ text.length)
    (valid : Predicate.isValid (text.take length)) :
    ∃ reached, scan text = some reached ∧ length ≤ reached := by
  obtain ⟨reached, found, atLeast, _⟩ := scan_append valid (text.drop length)
  rw [List.take_append_drop] at found
  rw [List.length_take_of_le within] at atLeast
  exact ⟨reached, found, atLeast⟩

theorem scan_eq_some_iff (text : Text) (length : Nat) :
    scan text = some length ↔
      0 < length ∧ length ≤ text.length ∧ Predicate.isValid (text.take length) ∧
        ∀ other ≤ text.length, Predicate.isValid (text.take other) → other ≤ length := by
  constructor
  · intro found
    obtain ⟨positive, within⟩ := scan_bounds found
    refine ⟨positive, within, scan_sound found, ?_⟩
    intro other bounded valid
    obtain ⟨reached, again, atLeast⟩ := scan_reaches bounded valid
    rw [found] at again
    cases again
    exact atLeast
  · rintro ⟨positive, within, valid, greatest⟩
    obtain ⟨reached, found, atLeast⟩ := scan_reaches within valid
    have atMost := greatest reached (scan_bounds found).2 (scan_sound found)
    rw [found, Nat.le_antisymm atMost atLeast]

theorem scan_of_isValid {text : Text} (valid : Predicate.isValid text = true) :
    scan text = some text.length := by
  have present : text ≠ [] := by
    rintro rfl
    cases valid
  rw [scan_eq_some_iff]
  refine ⟨List.length_pos_iff.mpr present, Nat.le_refl _, ?_, fun other within _ => within⟩
  rwa [List.take_length]

theorem scan_eq_none_iff (text : Text) :
    scan text = none ↔
      ∀ length ≤ text.length, Predicate.isValid (text.take length) = false := by
  constructor
  · intro missing length within
    cases valid : Predicate.isValid (text.take length) with
    | false => rfl
    | true =>
        obtain ⟨reached, found, _⟩ := scan_reaches within valid
        rw [missing] at found
        cases found
  · intro invalid
    cases found : scan text with
    | none => rfl
    | some length =>
        have valid := scan_sound found
        rw [invalid length (scan_bounds found).2] at valid
        cases valid

theorem scan_drop_eq_some_iff (text : Text) (start stop : Nat) :
    (scan (text.drop start)).map (start + ·) = some stop ↔
      start < stop ∧ stop ≤ text.length ∧ Predicate.isValid (text.slice start stop) ∧
        ∀ other, start < other → other ≤ text.length →
          Predicate.isValid (text.slice start other) → other ≤ stop := by
  simp only [Option.map_eq_some_iff, scan_eq_some_iff, List.length_drop, Text.slice,
    List.drop_take]
  constructor
  · rintro ⟨length, ⟨positive, within, valid, greatest⟩, rfl⟩
    refine ⟨by omega, by omega, by simpa using valid, ?_⟩
    intro other after bounded otherValid
    have atMost := greatest (other - start) (by omega) otherValid
    omega
  · rintro ⟨after, within, valid, greatest⟩
    refine ⟨stop - start, ⟨by omega, by omega, valid, ?_⟩, by omega⟩
    intro other bounded otherValid
    rcases Nat.eq_zero_or_pos other with rfl | positive
    · omega
    · have atMost := greatest (start + other) (by omega) (by omega)
        (by rwa [Nat.add_sub_cancel_left])
      omega

theorem scan_drop_eq_none_iff (text : Text) (start : Nat) :
    scan (text.drop start) = none ↔
      ¬∃ stop, start < stop ∧ stop ≤ text.length ∧
        Predicate.isValid (text.slice start stop) := by
  simp only [scan_eq_none_iff, List.length_drop, Text.slice, List.drop_take]
  constructor
  · rintro invalid ⟨stop, after, within, valid⟩
    rw [invalid (stop - start) (by omega)] at valid
    cases valid
  · intro missing length within
    cases valid : Predicate.isValid ((text.drop start).take length) with
    | false => rfl
    | true =>
        have positive : length ≠ 0 := by
          rintro rfl
          cases valid
        refine (missing ⟨start + length, by omega, by omega, ?_⟩).elim
        rwa [Nat.add_sub_cancel_left]

end PredicateParts

namespace PredicateKind

theorem searchFrom_eq_some_iff (isValid : Text → Bool) (text : Text) (bound length : Nat) :
    searchFrom isValid text bound = some length ↔
      0 < length ∧ length ≤ bound ∧ isValid (text.take length) ∧
        ∀ other ≤ bound, isValid (text.take other) → other ≤ length := by
  induction bound with
  | zero =>
      simp only [searchFrom, reduceCtorEq, false_iff]
      rintro ⟨positive, within, _⟩
      omega
  | succ bound ih =>
      rw [searchFrom]
      split
      next valid =>
        constructor
        · rintro ⟨⟩
          exact ⟨by omega, by omega, valid, fun other within _ => within⟩
        · rintro ⟨_, within, _, greatest⟩
          have atLeast := greatest (bound + 1) (by omega) valid
          rw [show bound + 1 = length by omega]
      next invalid =>
        rw [ih]
        constructor
        · rintro ⟨positive, within, valid, greatest⟩
          refine ⟨positive, by omega, valid, ?_⟩
          intro other bounded otherValid
          have distinct : other ≠ bound + 1 := by
            rintro rfl
            exact invalid otherValid
          exact greatest other (by omega) otherValid
        · rintro ⟨positive, within, valid, greatest⟩
          have distinct : length ≠ bound + 1 := by
            rintro rfl
            exact invalid valid
          exact ⟨positive, by omega, valid, fun other bounded => greatest other (by omega)⟩

inductive IsSupplied : {Effect : Type → Type} → {Item : Type} → PredicateKind Effect Item → Prop
  | standard : IsSupplied .standard
  | searched : IsSupplied .searched
  | markers : IsSupplied .markers

def IsSound {Effect : Type → Type} {Item : Type} (kind : PredicateKind Effect Item) : Prop :=
  ∀ (text : Text) (length : Nat), kind.longest? text = some length →
    0 < length ∧ length ≤ text.length ∧ kind.isValid (text.take length) = true

theorem search_sound {isValid : Text → Bool} {text : Text} {length : Nat}
    (found : search isValid text = some length) :
    0 < length ∧ length ≤ text.length ∧ isValid (text.take length) = true := by
  obtain ⟨positive, within, valid, _⟩ := (searchFrom_eq_some_iff isValid text _ length).mp found
  exact ⟨positive, within, valid⟩

theorem isSound_standard : standard.IsSound := by
  intro text length found
  obtain ⟨positive, within⟩ := PredicateParts.scan_bounds found
  exact ⟨positive, within, PredicateParts.scan_sound found⟩

theorem IsSupplied.isSound {Effect : Type → Type} {Item : Type}
    {kind : PredicateKind Effect Item} (supplied : kind.IsSupplied) : kind.IsSound := by
  cases supplied with
  | standard => exact isSound_standard
  | searched => exact fun _ _ found => search_sound found
  | markers => exact fun _ _ found => search_sound found

theorem scan_eq_search : PredicateParts.scan = search Predicate.isValid := by
  funext text
  ext length
  rw [search, PredicateParts.scan_eq_some_iff, searchFrom_eq_some_iff]

theorem standard_eq_searched : standard = searched := by
  rw [searched, ← scan_eq_search]
  rfl

end PredicateKind

/-- From any offset on, `scan` finds the greatest end of a predicate, and none exactly if no
predicate begins there. So every expression has the same tokens and predicates, or the same fault,
whether the ends are found by `scan` or by search. -/
theorem scan_agrees_with_search :
    (∀ (text : Text) (start stop : Nat),
      (PredicateParts.scan (text.drop start)).map (start + ·) = some stop ↔
        start < stop ∧ stop ≤ text.length ∧ Predicate.isValid (text.slice start stop) ∧
          ∀ other, start < other → other ≤ text.length →
            Predicate.isValid (text.slice start other) → other ≤ stop) ∧
    (∀ (text : Text) (start : Nat),
      PredicateParts.scan (text.drop start) = none ↔
        ¬∃ stop, start < stop ∧ stop ≤ text.length ∧
          Predicate.isValid (text.slice start stop)) ∧
    ∀ (ceiling : Option Int) (keywords : Bool) (expression : Text),
      Symbolic.ofText ⟨.standard, ceiling⟩ keywords expression =
        Symbolic.ofText ⟨.searched, ceiling⟩ keywords expression := by
  refine ⟨PredicateParts.scan_drop_eq_some_iff, PredicateParts.scan_drop_eq_none_iff, ?_⟩
  intro ceiling keywords expression
  rw [PredicateKind.standard_eq_searched]

end EventFilter
