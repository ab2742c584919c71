import EventFilter.Proofs.Predicate.Unreadable

/-!
The ways to write a predicate.

A predicate is a name, an operator and an operand, with optional white space on both sides of the
operator. The only texts that can be taken apart in two ways are those in which `=` follows `>` or
`<`: it belongs to the operator if an operand remains behind it, and is the operand otherwise.
-/

namespace EventFilter

namespace PredicateParts

def unquote : Text → Text
  | '"' :: rest => rest.dropLast
  | bare => bare

theorem unquote_quoted (value : Text) : unquote ('"' :: value ++ ['"']) = value := by
  simp [unquote]

theorem unquote_of_isBare {first : Char} (bare : isBare first = true) (rest : Text) :
    unquote (first :: rest) = first :: rest := by
  unfold unquote
  split
  next same => exact absurd (List.cons.inj same).1 (ne_quote_of_isBare bare)
  next => rfl

theorem IsOperand.wholeOperand?_eq {operand : Text} (isOperand : IsOperand operand) :
    wholeOperand? operand = some (unquote operand) := by
  obtain ⟨value, found⟩ :=
    Option.isSome_iff_exists.mp ((isSome_wholeOperand?_iff operand).mpr isOperand)
  rw [found]
  rcases wholeOperand?_cases found with ⟨rfl, _⟩ | ⟨rfl, bare⟩
  · rw [unquote_quoted]
  · obtain ⟨first, rest, rfl⟩ := List.exists_cons_of_ne_nil isOperand.ne_nil
    simp only [List.all_cons, Bool.and_eq_true] at bare
    rw [unquote_of_isBare bare.1]

theorem IsOperand.stopsBlank {operand : Text} (isOperand : IsOperand operand) :
    Text.Stops Text.isBlank operand := by
  cases isOperand with
  | quoted closed =>
      rintro next ⟨⟩
      rfl
  | bare present inside =>
      intro next first
      exact not_isBlank_of_isBare (List.all_eq_true.mp inside next (List.mem_of_head? first))

structure Writing where
  name : Text
  before : Text
  comparison : Comparison
  after : Text
  operand : Text
  isName : IsName name
  blankBefore : before.all Text.isBlank
  blankAfter : after.all Text.isBlank
  isOperand : IsOperand operand

namespace Writing

def text (writing : Writing) : Text :=
  writing.name ++ writing.before ++ writing.comparison.spelling ++ writing.after ++
    writing.operand

/-- The operand begins with an equals sign that goes to the operator before it. -/
structure LendsEquals (writing : Writing) : Prop where
  strict : writing.comparison = .greater ∨ writing.comparison = .less
  adjacent : writing.after = []
  begins : ∃ rest, rest ≠ [] ∧ writing.operand = '=' :: rest

variable {writing : Writing}

theorem dropWhile_after (writing : Writing) :
    (writing.after ++ writing.operand).dropWhile Text.isBlank = writing.operand :=
  Text.dropWhile_append_of_stops writing.blankAfter writing.isOperand.stopsBlank

theorem parse?_text (writing : Writing) :
    parse? writing.text =
      (Comparison.readings (writing.comparison.spelling ++
        (writing.after ++ writing.operand))).findSome? fun (comparison, tail) =>
          (wholeOperand? (tail.dropWhile Text.isBlank)).map fun operand =>
            ⟨writing.name, comparison, operand⟩ := by
  obtain ⟨first, rest, spelled, starts⟩ : ∃ first rest,
      writing.comparison.spelling = first :: rest ∧ startsOperator first = true := by
    cases writing.comparison <;> exact ⟨_, _, rfl, rfl⟩
  have beginning : Beginning writing.name writing.before
      (first :: (rest ++ (writing.after ++ writing.operand))) :=
    beginning_of_startsOperator writing.isName writing.blankBefore starts
  rw [← List.cons_append, ← spelled] at beginning
  have same : writing.text = writing.name ++ (writing.before ++
      (writing.comparison.spelling ++ (writing.after ++ writing.operand))) := by
    simp [text]
  rw [same, parse?, splitName?_append beginning.isName beginning.stopsName]
  simp only [Option.bind_eq_bind, Option.bind_some,
    Text.dropWhile_append_of_stops beginning.blank beginning.stopsBlank]

theorem parse?_of_first {comparison : Comparison} {tail : Text}
    {others : List (Comparison × Text)}
    (first : Comparison.readings (writing.comparison.spelling ++
      (writing.after ++ writing.operand)) = (comparison, tail) :: others)
    (isOperand : IsOperand (tail.dropWhile Text.isBlank)) :
    parse? writing.text =
      some ⟨writing.name, comparison, unquote (tail.dropWhile Text.isBlank)⟩ := by
  rw [parse?_text, first, List.findSome?_cons]
  dsimp only
  rw [isOperand.wholeOperand?_eq, Option.map_some]

theorem parse?_of_first_written {others : List (Comparison × Text)}
    (first : Comparison.readings (writing.comparison.spelling ++
      (writing.after ++ writing.operand)) =
        (writing.comparison, writing.after ++ writing.operand) :: others) :
    parse? writing.text = some ⟨writing.name, writing.comparison, unquote writing.operand⟩ := by
  have read := parse?_of_first first (by rw [dropWhile_after]; exact writing.isOperand)
  rwa [dropWhile_after] at read

theorem adjacent_of_equals {rest : Text}
    (begins : writing.after ++ writing.operand = '=' :: rest) :
    writing.after = [] ∧ writing.operand = '=' :: rest := by
  cases spaces : writing.after with
  | nil =>
      rw [spaces, List.nil_append] at begins
      exact ⟨rfl, begins⟩
  | cons space others =>
      have blank := writing.blankAfter
      rw [spaces, List.cons_append] at begins
      rw [spaces, List.all_cons, (List.cons.inj begins).1] at blank
      cases blank

theorem parse?_of_not_lendsEquals (keeps : ¬writing.LendsEquals) :
    parse? writing.text = some ⟨writing.name, writing.comparison, unquote writing.operand⟩ := by
  by_cases strict : writing.comparison = .greater ∨ writing.comparison = .less
  · obtain ⟨first, rest, begins⟩ := List.exists_cons_of_ne_nil
      (List.append_ne_nil_of_right_ne_nil writing.after writing.isOperand.ne_nil)
    by_cases equals : first = '='
    · subst equals
      obtain ⟨adjacent, operand⟩ := adjacent_of_equals begins
      by_cases remains : rest = []
      · -- Nothing is left for the longer operator, so the shorter one is read.
        subst remains
        rw [parse?_text, begins, operand]
        rcases strict with same | same <;> rw [same] <;> rfl
      · exact absurd ⟨strict, adjacent, rest, remains, operand⟩ keeps
    · apply parse?_of_first_written
      rw [begins]
      exact readings_strict strict equals rest
  · obtain ⟨others, first⟩ : ∃ others, Comparison.readings (writing.comparison.spelling ++
        (writing.after ++ writing.operand)) =
          (writing.comparison, writing.after ++ writing.operand) :: others := by
      cases same : writing.comparison with
      | greater => exact absurd (.inl same) strict
      | less => exact absurd (.inr same) strict
      | equal | notEqual | atLeast | atMost => exact ⟨_, rfl⟩
    exact parse?_of_first_written first

theorem parse?_of_lendsEquals (lends : writing.LendsEquals) :
    ∃ comparison rest, comparison.spelling = writing.comparison.spelling ++ ['='] ∧
      writing.operand = '=' :: rest ∧
      parse? writing.text = some ⟨writing.name, comparison, rest⟩ := by
  obtain ⟨strict, adjacent, rest, present, operand⟩ := lends
  have isOperand := writing.isOperand
  rw [operand] at isOperand
  have inside := all_isBare_of_isOperand_cons isOperand (by decide)
  have bare := IsOperand.bare present inside
  have dropped : rest.dropWhile Text.isBlank = rest :=
    Text.dropWhile_eq_self_of_stops bare.stopsBlank
  have value : unquote rest = rest := by
    obtain ⟨first, others, rfl⟩ := List.exists_cons_of_ne_nil present
    simp only [List.all_cons, Bool.and_eq_true] at inside
    exact unquote_of_isBare inside.1 others
  have first : ∃ comparison others,
      comparison.spelling = writing.comparison.spelling ++ ['='] ∧
      Comparison.readings (writing.comparison.spelling ++ (writing.after ++ writing.operand)) =
        (comparison, rest) :: others := by
    rw [adjacent, operand, List.nil_append]
    rcases strict with same | same <;> rw [same]
    · exact ⟨.atLeast, _, rfl, rfl⟩
    · exact ⟨.atMost, _, rfl, rfl⟩
  obtain ⟨comparison, others, spelled, first⟩ := first
  refine ⟨comparison, rest, spelled, operand, ?_⟩
  have read := parse?_of_first first (by rwa [dropped])
  rwa [dropped, value] at read

theorem isValid_text (writing : Writing) : Predicate.isValid writing.text = true := by
  rw [Predicate.isValid]
  by_cases lends : writing.LendsEquals
  · obtain ⟨_, _, _, _, parsed⟩ := parse?_of_lendsEquals lends
    rw [parsed, Option.isSome_some]
  · rw [parse?_of_not_lendsEquals lends, Option.isSome_some]

theorem exists_of_isValid {text : Text} (valid : Predicate.isValid text = true) :
    ∃ writing : Writing, writing.text = text := by
  obtain ⟨name, gap, rest, rfl, beginning, comparison, tail, reading, isOperand⟩ :=
    (isValid_iff_beginning text).mp valid
  obtain ⟨after, operand, rfl, blank, stops⟩ := Text.exists_split Text.isBlank tail
  rw [Text.dropWhile_append_of_stops blank stops] at isOperand
  rw [mem_readings_iff] at reading
  subst reading
  exact ⟨⟨name, gap, comparison, after, operand, beginning.isName, beginning.blank, blank,
    isOperand⟩, by simp [Writing.text]⟩

end Writing

/-- All of a predicate but its operator and its value, which stands in quotes. -/
structure Frame where
  name : Text
  before : Text
  after : Text
  isName : IsName name
  blankBefore : before.all Text.isBlank
  blankAfter : after.all Text.isBlank

namespace Frame

def text (frame : Frame) (comparison : Comparison) (value : Text) : Text :=
  frame.name ++ frame.before ++ comparison.spelling ++ frame.after ++ ('"' :: value ++ ['"'])

theorem parse?_text (frame : Frame) (comparison : Comparison) {value : Text}
    (unquoted : '"' ∉ value) :
    parse? (frame.text comparison value) = some ⟨frame.name, comparison, value⟩ := by
  let writing : Writing := ⟨frame.name, frame.before, comparison, frame.after,
    '"' :: value ++ ['"'], frame.isName, frame.blankBefore, frame.blankAfter,
    .quoted (all_isNotQuote_iff.mpr unquoted)⟩
  have keeps : ¬writing.LendsEquals := by
    rintro ⟨_, _, rest, _, begins⟩
    cases begins
  have parsed := Writing.parse?_of_not_lendsEquals keeps
  rwa [show unquote writing.operand = value from unquote_quoted value] at parsed

end Frame

end PredicateParts

theorem exists_of_map_eq_ok {Source Result : Type} {read : Except Fault Source}
    {make : Source → Result} {result : Result} (made : read.map make = .ok result) :
    ∃ source, read = .ok source ∧ make source = result := by
  cases read with
  | error fault => cases made
  | ok source => exact ⟨source, rfl, Except.ok.inj made⟩

namespace Predicate

open PredicateParts (Writing Frame unquote)

theorem build_of_parse? {text : Text} {parts : PredicateParts}
    (parsed : PredicateParts.parse? text = some parts) :
    build text =
      (Value.quantity? (.text parts.operand)).map fun quantity => ⟨text, parts, quantity⟩ := by
  rw [build, parsed]
  dsimp only
  cases Value.quantity? (.text parts.operand) <;> rfl

theorem parts_and_quantity_of_build {text : Text} {predicate : Predicate}
    (built : build text = .ok predicate) :
    PredicateParts.parse? text = some predicate.parts ∧
      Value.quantity? (.text predicate.parts.operand) = .ok predicate.quantity := by
  cases parsed : PredicateParts.parse? text with
  | none =>
      rw [build, parsed] at built
      cases built
  | some parts =>
      rw [build_of_parse? parsed] at built
      obtain ⟨quantity, quantified, rfl⟩ := exists_of_map_eq_ok built
      exact ⟨rfl, quantified⟩

def ofFrame (frame : Frame) (value : Text) (quantity : Option Quantity)
    (comparison : Comparison) : Predicate :=
  ⟨frame.text comparison value, ⟨frame.name, comparison, value⟩, quantity⟩

theorem build_frame (frame : Frame) (comparison : Comparison) {value : Text}
    (unquoted : '"' ∉ value) :
    build (frame.text comparison value) =
      (Value.quantity? (.text value)).map fun quantity =>
        ofFrame frame value quantity comparison :=
  build_of_parse? (frame.parse?_text comparison unquoted)

/-- A text is a predicate if and only if the grammar has a way to write it. Each way to write it
gives the predicate as it stands, except that the equals sign between `>` or `<` and the rest of an
operand is read as part of the operator. -/
theorem parts_of_written :
    (∀ text : Text, isValid text = true ↔ ∃ writing : Writing, writing.text = text) ∧
    ∀ (writing : Writing) (predicate : Predicate), build writing.text = .ok predicate →
      (¬writing.LendsEquals → predicate.parts =
        ⟨writing.name, writing.comparison, unquote writing.operand⟩) ∧
      (writing.LendsEquals → predicate.parts.property = writing.name ∧
        predicate.parts.comparison.spelling = writing.comparison.spelling ++ ['='] ∧
        '=' :: predicate.parts.operand = writing.operand) := by
  refine ⟨fun text => ⟨Writing.exists_of_isValid, ?_⟩, fun writing predicate built => ?_⟩
  · rintro ⟨writing, rfl⟩
    exact writing.isValid_text
  · have parsed := (parts_and_quantity_of_build built).1
    refine ⟨fun keeps => ?_, fun lends => ?_⟩
    · rw [Writing.parse?_of_not_lendsEquals keeps] at parsed
      exact (Option.some.inj parsed).symm
    · obtain ⟨comparison, rest, spelled, operand, read⟩ := Writing.parse?_of_lendsEquals lends
      rw [read] at parsed
      rw [← Option.some.inj parsed]
      exact ⟨rfl, spelled, operand.symm⟩

theorem parts_of_written_equals :
    ∃ (strict whole bound : Writing) (predicate boundPredicate : Predicate),
      strict.text = "a>==5".toList ∧ strict.comparison = .greater ∧ strict.LendsEquals ∧
      whole.text = "a>==5".toList ∧ whole.comparison = .atLeast ∧ ¬whole.LendsEquals ∧
      build "a>==5".toList = .ok predicate ∧ predicate.parts = ⟨['a'], .atLeast, ['=', '5']⟩ ∧
      '=' :: predicate.parts.operand = strict.operand ∧
      bound.text = "a>=".toList ∧ ¬bound.LendsEquals ∧
      build "a>=".toList = .ok boundPredicate ∧
      boundPredicate.parts = ⟨['a'], .greater, ['=']⟩ := by
  let strict : Writing := ⟨['a'], [], .greater, [], "==5".toList, ⟨'a', [], rfl, rfl, rfl⟩, rfl,
    rfl, .bare (List.cons_ne_nil _ _) rfl⟩
  let whole : Writing := ⟨['a'], [], .atLeast, [], "=5".toList, ⟨'a', [], rfl, rfl, rfl⟩, rfl,
    rfl, .bare (List.cons_ne_nil _ _) rfl⟩
  let bound : Writing := ⟨['a'], [], .greater, [], ['='], ⟨'a', [], rfl, rfl, rfl⟩, rfl, rfl,
    .bare (List.cons_ne_nil _ _) rfl⟩
  have lends : strict.LendsEquals := ⟨.inl rfl, rfl, "=5".toList, List.cons_ne_nil _ _, rfl⟩
  have keeps : ¬whole.LendsEquals := by
    intro lends
    rcases lends.strict with same | same <;> cases same
  have ends : ¬bound.LendsEquals := by
    rintro ⟨_, _, rest, present, same⟩
    exact present (List.cons.inj same).2.symm
  have built : build "a>==5".toList =
      .ok ⟨"a>==5".toList, ⟨['a'], .atLeast, ['=', '5']⟩, none⟩ := rfl
  -- Nothing would be left for `>=` as an operand.
  have boundBuilt : build "a>=".toList = .ok ⟨"a>=".toList, ⟨['a'], .greater, ['=']⟩, none⟩ := rfl
  exact ⟨strict, whole, bound, _, _, rfl, rfl, lends, rfl, rfl, keeps, built,
    (parts_of_written.2 whole _ built).1 keeps, ((parts_of_written.2 strict _ built).2 lends).2.2,
    rfl, ends, boundBuilt, (parts_of_written.2 bound _ boundBuilt).1 ends⟩

end Predicate

end EventFilter
