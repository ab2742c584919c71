import EventFilter.Predicate.Extent
import EventFilter.Text.Stops

/-!
Comparisons inside longer texts.

A predicate is a name, white space and a comparison: an operator, white space and an operand. What
`scan` takes from a text that begins with a predicate is this predicate, unless the operand goes
on, or the predicate ends in `>=` or `<=` and the text behind it supplies an operand.
-/

namespace EventFilter

namespace PredicateParts

def IsName (text : Text) : Prop :=
  ∃ first rest, text = first :: rest ∧ startsName first = true ∧ rest.all continuesName

inductive IsOperand : Text → Prop
  | quoted {inner : Text} : inner.all isNotQuote → IsOperand ('"' :: inner ++ ['"'])
  | bare {text : Text} : text ≠ [] → text.all isBare → IsOperand text

def IsComparison (text : Text) : Prop :=
  ∃ comparison tail, (comparison, tail) ∈ Comparison.readings text ∧
    IsOperand (tail.dropWhile Text.isBlank)

def comparisonLength? (text : Text) : Option Nat :=
  (Comparison.readings text).findSome? fun (comparison, tail) =>
    (operandLength? (tail.dropWhile Text.isBlank)).map fun length =>
      comparison.spelling.length + (tail.takeWhile Text.isBlank).length + length

/-- The comparisons that read the second half of an operator as operand. -/
def IsBound (text : Text) : Prop :=
  text = ['>', '='] ∨ text = ['<', '=']

theorem IsOperand.ne_nil {text : Text} (operand : IsOperand text) : text ≠ [] := by
  cases operand with
  | quoted closed => simp
  | bare present inside => exact present

theorem not_isBlank_of_isBare {character : Char} (bare : isBare character = true) :
    Text.isBlank character = false := by
  simp only [isBare, Bool.and_eq_true, Bool.not_eq_true'] at bare
  exact bare.1.1.1.1.1

theorem isOperand_cons_quote_iff (rest : Text) :
    IsOperand ('"' :: rest) ↔ rest.dropWhile isNotQuote = ['"'] := by
  constructor
  · intro operand
    generalize same : '"' :: rest = text at operand
    cases operand with
    | quoted closed =>
        simp only [List.cons_append, List.cons.injEq, true_and] at same
        subst same
        exact Text.dropWhile_append_of_stops closed (by simp [Text.Stops, isNotQuote])
    | bare present inside =>
        subst same
        simp [isBare] at inside
  · intro closed
    have split := List.takeWhile_append_dropWhile (p := isNotQuote) (l := rest)
    rw [closed] at split
    rw [← split]
    exact .quoted List.all_takeWhile

theorem isSome_wholeOperand?_iff (text : Text) :
    (wholeOperand? text).isSome ↔ IsOperand text := by
  unfold wholeOperand?
  split
  · rename_i rest
    rw [isOperand_cons_quote_iff]
    split <;> simp_all
  · rename_i unquoted
    constructor
    · intro found
      split at found
      · rename_i bare
        simp only [Bool.and_eq_true, Bool.not_eq_true'] at bare
        exact .bare (by simpa [List.isEmpty_iff] using bare.1) bare.2
      · simp at found
    · intro operand
      cases operand with
      | quoted closed => exact absurd rfl (unquoted _)
      | bare present inside => simp [present, inside]

theorem ne_quote_of_isBare {character : Char} (bare : isBare character = true) :
    character ≠ '"' := by
  rintro rfl
  simp [isBare] at bare

theorem operandLength?_of_isBare {first : Char} (bare : isBare first = true) (rest : Text) :
    operandLength? (first :: rest) = some ((rest.takeWhile isBare).length + 1) := by
  unfold operandLength?
  split
  · rename_i tail same
    simp only [List.cons.injEq] at same
    exact absurd same.1 (ne_quote_of_isBare bare)
  · simp [bare]

theorem operandLength?_append {operand : Text} (isOperand : IsOperand operand) (following : Text) :
    ∃ length, operandLength? (operand ++ following) = some length ∧ operand.length ≤ length ∧
      (length = operand.length ↔ operand.getLast? = some '"' ∨ Text.Stops isBare following) := by
  cases isOperand with
  | quoted closed =>
      rename_i inner
      have stops : Text.Stops isNotQuote ('"' :: following) := by simp [Text.Stops, isNotQuote]
      refine ⟨inner.length + 2, ?_, by simp, by simp [List.getLast?_cons]⟩
      simp [operandLength?, Text.takeWhile_append_of_stops closed stops,
        Text.dropWhile_append_of_stops closed stops]
  | bare present inside =>
      obtain ⟨first, rest, rfl⟩ := List.exists_cons_of_ne_nil present
      have unquoted : (first :: rest).getLast? ≠ some '"' := by
        intro last
        have bare := List.all_eq_true.mp inside '"' (List.mem_of_getLast? last)
        exact ne_quote_of_isBare bare rfl
      simp only [List.all_cons, Bool.and_eq_true] at inside
      have taken : (rest ++ following).takeWhile isBare = rest ++ following.takeWhile isBare :=
        List.takeWhile_append_of_pos (List.all_eq_true.mp inside.2)
      refine ⟨_, operandLength?_of_isBare inside.1 _, by simp [taken], ?_⟩
      simp [taken, unquoted, ← Text.takeWhile_eq_nil_iff_stops]

theorem operandLength?_sound {text : Text} {length : Nat}
    (found : operandLength? text = some length) : IsOperand (text.take length) := by
  unfold operandLength? at found
  split at found
  · rename_i rest
    split at found
    · simp at found
    · rename_i closed
      simp only [Option.some.injEq] at found
      subst found
      obtain ⟨mark, tail, ends⟩ : ∃ mark tail, rest.dropWhile isNotQuote = mark :: tail :=
        List.exists_cons_of_ne_nil (by simpa [List.isEmpty_iff] using closed)
      have isMark := Text.stops_dropWhile isNotQuote rest mark (by simp [ends])
      have split := List.takeWhile_append_dropWhile (p := isNotQuote) (l := rest)
      rw [ends] at split
      simp only [isNotQuote, bne_eq_false_iff_eq] at isMark
      subst isMark
      have taken : rest.take ((rest.takeWhile isNotQuote).length + 1) =
          rest.takeWhile isNotQuote ++ ['"'] := by
        conv => lhs; arg 2; rw [← split]
        simp [List.take_append, List.take_of_length_le]
      rw [List.take_succ_cons, taken]
      exact .quoted List.all_takeWhile
  · split at found
    · simp at found
    · rename_i present
      simp only [Option.some.injEq] at found
      subst found
      rw [← List.prefix_iff_eq_take.mp (List.takeWhile_prefix isBare)]
      exact .bare (by simpa [List.isEmpty_iff] using present) List.all_takeWhile

theorem mem_readings_iff {text tail : Text} {comparison : Comparison} :
    (comparison, tail) ∈ Comparison.readings text ↔ text = comparison.spelling ++ tail := by
  constructor
  · intro reading
    unfold Comparison.readings at reading
    split at reading <;> simp at reading
    case h_3 | h_4 =>
        obtain ⟨rfl, rfl⟩ | ⟨rfl, rfl⟩ := reading <;> rfl
    all_goals
      obtain ⟨rfl, rfl⟩ := reading
      rfl
  · rintro rfl
    cases comparison with
    | equal | notEqual | atLeast | atMost => simp [Comparison.spelling, Comparison.readings]
    | greater | less =>
        unfold Comparison.readings
        split <;> simp_all [Comparison.spelling]

theorem readings_cons_cons (first second : Char) (rest : Text) :
    Comparison.readings (first :: second :: rest) =
      if second = '=' then
        if first = '=' then [(.equal, rest)]
        else if first = '!' then [(.notEqual, rest)]
        else if first = '>' then [(.atLeast, rest), (.greater, '=' :: rest)]
        else if first = '<' then [(.atMost, rest), (.less, '=' :: rest)]
        else []
      else if first = '>' then [(.greater, second :: rest)]
      else if first = '<' then [(.less, second :: rest)]
      else [] := by
  unfold Comparison.readings
  split
  case h_5 | h_6 =>
      rename_i distinct same
      obtain ⟨rfl, rfl⟩ := List.cons.inj same
      have different : second ≠ '=' := fun equals => distinct rest (by rw [equals])
      simp [different]
  case h_7 =>
      by_cases equals : second = '=' <;> simp_all
  all_goals simp_all

theorem readings_append {text : Text} (long : 2 ≤ text.length) (following : Text) :
    Comparison.readings (text ++ following) =
      (Comparison.readings text).map fun (comparison, tail) => (comparison, tail ++ following) := by
  match text, long with
  | first :: second :: rest, _ =>
      rw [List.cons_append, List.cons_append, readings_cons_cons, readings_cons_cons]
      repeat' split
      all_goals rfl

theorem readings_strict {comparison : Comparison}
    (strict : comparison = .greater ∨ comparison = .less) {first : Char} (distinct : first ≠ '=')
    (rest : Text) :
    Comparison.readings (comparison.spelling ++ first :: rest) = [(comparison, first :: rest)] := by
  rcases strict with rfl | rfl <;> simp [Comparison.spelling, readings_cons_cons, distinct]

theorem all_isBare_of_isOperand_cons {first : Char} {rest : Text}
    (operand : IsOperand (first :: rest)) (unquoted : first ≠ '"') : rest.all isBare := by
  generalize same : first :: rest = text at operand
  cases operand with
  | quoted closed => exact absurd (List.cons.inj same).1 unquoted
  | bare present inside =>
      subst same
      simp only [List.all_cons, Bool.and_eq_true] at inside
      exact inside.2

theorem isOperand_dropWhile_of_bare {text : Text} (present : text ≠ []) (inside : text.all isBare) :
    IsOperand (text.dropWhile Text.isBlank) := by
  obtain ⟨first, rest, rfl⟩ := List.exists_cons_of_ne_nil present
  have bare : isBare first = true := by
    simp only [List.all_cons, Bool.and_eq_true] at inside
    exact inside.1
  rw [List.dropWhile_cons_of_neg (by simp [not_isBlank_of_isBare bare])]
  exact .bare present inside

/-- A comparison is read by the first operator that it begins with, unless nothing follows the
operators `>=` and `<=`. -/
theorem IsComparison.first_reading {text : Text} (isComparison : IsComparison text) :
    (∃ comparison tail others, Comparison.readings text = (comparison, tail) :: others ∧
      IsOperand (tail.dropWhile Text.isBlank)) ∨ IsBound text := by
  obtain ⟨comparison, tail, reading, operand⟩ := isComparison
  have written := mem_readings_iff.mp reading
  subst written
  cases comparison with
  | equal | notEqual | atLeast | atMost => exact .inl ⟨_, tail, _, rfl, operand⟩
  | greater | less =>
      have present : tail ≠ [] := by
        rintro rfl
        exact operand.ne_nil rfl
      obtain ⟨first, rest, rfl⟩ := List.exists_cons_of_ne_nil present
      by_cases equals : first = '='
      · subst equals
        have inside := all_isBare_of_isOperand_cons operand (by decide)
        by_cases ended : rest = []
        · subst ended
          simp [IsBound, Comparison.spelling]
        · exact .inl ⟨_, rest, _, rfl, isOperand_dropWhile_of_bare ended inside⟩
      · exact .inl ⟨_, _, _, readings_strict (by simp) equals rest, operand⟩

theorem comparisonLength?_of_first {text tail : Text} {comparison : Comparison}
    {others : List (Comparison × Text)} {length : Nat}
    (first : Comparison.readings text = (comparison, tail) :: others)
    (found : operandLength? (tail.dropWhile Text.isBlank) = some length) :
    comparisonLength? text =
      some (comparison.spelling.length + (tail.takeWhile Text.isBlank).length + length) := by
  simp [comparisonLength?, first, found]

theorem comparisonLength?_append_of_first {text tail : Text} {comparison : Comparison}
    {others : List (Comparison × Text)}
    (first : Comparison.readings text = (comparison, tail) :: others)
    (operand : IsOperand (tail.dropWhile Text.isBlank)) (following : Text) :
    ∃ length, comparisonLength? (text ++ following) = some length ∧ text.length ≤ length ∧
      (length = text.length ↔ text.getLast? = some '"' ∨ Text.Stops isBare following) := by
  have written : text = comparison.spelling ++ tail :=
    mem_readings_iff.mp (by rw [first]; exact List.mem_cons_self)
  obtain ⟨gap, whole, rfl, blank, stops⟩ := Text.exists_split Text.isBlank tail
  rw [Text.dropWhile_append_of_stops blank stops] at operand
  have present := operand.ne_nil
  have goesOn := Text.stops_append present stops following
  have total : text.length = comparison.spelling.length + gap.length + whole.length := by
    rw [written]
    simp [Nat.add_assoc]
  -- Two characters settle the operator, so what follows cannot change it.
  have long : 2 ≤ text.length := by
    have operatorPresent : 0 < comparison.spelling.length := by cases comparison <;> decide
    have operandPresent := List.length_pos_iff.mpr present
    omega
  obtain ⟨length, found, atLeast, exactly⟩ := operandLength?_append operand following
  have reading : Comparison.readings (text ++ following) =
      (comparison, (gap ++ whole) ++ following) ::
        others.map fun (comparison, tail) => (comparison, tail ++ following) := by
    rw [readings_append long, first]
    rfl
  refine ⟨comparison.spelling.length + gap.length + length, ?_, by omega, ?_⟩
  · rw [← Text.takeWhile_append_of_stops blank goesOn, ← List.append_assoc]
    apply comparisonLength?_of_first reading
    rwa [List.append_assoc, Text.dropWhile_append_of_stops blank goesOn]
  · have last : text.getLast? = whole.getLast? := by
      rw [written, ← List.append_assoc, Text.getLast?_append_of_ne_nil present]
    rw [last, ← exactly]
    omega

theorem comparisonLength?_append_of_isBound {text : Text} (isBound : IsBound text)
    (following : Text) :
    ∃ length, comparisonLength? (text ++ following) = some length ∧ text.length ≤ length ∧
      (length = text.length ↔ Text.Stops isBare following ∧
        operandLength? (following.dropWhile Text.isBlank) = none) := by
  have bareEquals : isBare '=' = true := by decide
  have fallback := operandLength?_of_isBare bareEquals following
  have noBlank : Text.isBlank '=' = false := by decide
  cases found : operandLength? (following.dropWhile Text.isBlank) with
  | some length =>
      have positive := (operandLength?_bounds found).1
      rcases isBound with rfl | rfl
      all_goals
        refine ⟨_, comparisonLength?_of_first rfl found, ?_, ?_⟩
        · simp only [Comparison.spelling, List.length_cons, List.length_nil]
          omega
        · simp [Comparison.spelling]
          omega
  | none =>
      refine ⟨(following.takeWhile isBare).length + 2, ?_, ?_, ?_⟩
      · rcases isBound with rfl | rfl
        all_goals
          simp [comparisonLength?, Comparison.readings, found, noBlank, fallback,
            Comparison.spelling]
          omega
      · rcases isBound with rfl | rfl <;> simp
      · rcases isBound with rfl | rfl <;> simp [← Text.takeWhile_eq_nil_iff_stops]

theorem comparisonLength?_append {text : Text} (isComparison : IsComparison text)
    (following : Text) :
    ∃ length, comparisonLength? (text ++ following) = some length ∧ text.length ≤ length ∧
      (length = text.length ↔
        (text.getLast? = some '"' ∨ Text.Stops isBare following) ∧
          (IsBound text → operandLength? (following.dropWhile Text.isBlank) = none)) := by
  by_cases isBound : IsBound text
  · obtain ⟨length, found, atLeast, exactly⟩ :=
      comparisonLength?_append_of_isBound isBound following
    refine ⟨length, found, atLeast, exactly.trans ?_⟩
    have unquoted : text.getLast? ≠ some '"' := by
      rcases isBound with rfl | rfl <;> decide
    simp [unquoted, isBound]
  · obtain ⟨comparison, tail, others, first, operand⟩ :=
      isComparison.first_reading.resolve_right isBound
    obtain ⟨length, found, atLeast, exactly⟩ :=
      comparisonLength?_append_of_first first operand following
    refine ⟨length, found, atLeast, exactly.trans ?_⟩
    simp [isBound]

theorem comparisonLength?_sound {text : Text} {length : Nat}
    (found : comparisonLength? text = some length) : IsComparison (text.take length) := by
  obtain ⟨⟨comparison, tail⟩, reading, measured⟩ := List.exists_of_findSome?_eq_some found
  obtain ⟨operandLength, operandFound, rfl⟩ := Option.map_eq_some_iff.mp measured
  have operand := operandLength?_sound operandFound
  obtain ⟨gap, whole, rfl, blank, stops⟩ := Text.exists_split Text.isBlank tail
  rw [Text.dropWhile_append_of_stops blank stops] at operand
  rw [mem_readings_iff.mp reading]
  refine ⟨comparison, gap ++ whole.take operandLength, mem_readings_iff.mpr ?_, ?_⟩
  · rw [Text.takeWhile_append_of_stops blank stops, Nat.add_assoc, List.take_length_add_append,
      List.take_length_add_append]
  · rw [Text.dropWhile_append_of_stops blank]
    · exact operand
    · exact Text.stops_take stops operandLength

end PredicateParts

end EventFilter
