import EventFilter.Proofs.Predicate.Longest

/-!
Predicates that are valid but cannot be built.

A predicate with a numeral in quotes is refused if an information separator stands in the margin
of the numeral: the margin is taken off to recognise the numeral, but not to read it. No other
valid predicate is refused.
-/

namespace EventFilter

namespace Text

theorem isBlank_of_isInformationSeparator {character : Char}
    (separates : isInformationSeparator character = true) : isBlank character = true := by
  simp only [isInformationSeparator, Bool.and_eq_true, decide_eq_true_eq] at separates
  simp [isBlank, inRanges, blankRanges]
  omega

theorem not_isBlank_of_isDigit {character : Char} (digit : isDigit character = true) :
    isBlank character = false := by
  have apart : ∀ least ∈ digitZeros, ∀ range ∈ blankRanges,
      least + 9 < range.1 ∨ range.2 < least := by decide
  obtain ⟨least, member, lower, upper⟩ := exists_least_of_isDigit digit
  rw [isBlank, inRanges, List.any_eq_false]
  intro range blank
  have outside := apart least member range blank
  simp only [Bool.and_eq_true, decide_eq_true_eq]
  omega

theorem exists_margins (text : Text) :
    ∃ left right, text = left ++ strip text ++ right ∧ left.all isBlank ∧ right.all isBlank := by
  obtain ⟨left, rest, rfl, leftBlank, stops⟩ := exists_split isBlank text
  obtain ⟨right, core, reversed, rightBlank, ends⟩ := exists_split isBlank rest.reverse
  have dropped : rest.reverse.dropWhile isBlank = core := by
    rw [reversed, dropWhile_append_of_stops rightBlank ends]
  refine ⟨left, right.reverse, ?_, leftBlank, by rwa [List.all_reverse]⟩
  rw [strip, stripWhere, dropWhile_append_of_stops leftBlank stops, dropped, List.append_assoc,
    ← List.reverse_append, ← reversed, List.reverse_reverse]

theorem strip_margins {left core right : Text} (present : core ≠ [])
    (visible : ∀ character ∈ core, isBlank character = false) (leftBlank : left.all isBlank)
    (rightBlank : right.all isBlank) : strip (left ++ core ++ right) = core := by
  have stops : Stops isBlank core := fun character first =>
    visible character (List.mem_of_head? first)
  have stopsReversed : Stops isBlank core.reverse := by
    intro character last
    rw [List.head?_reverse] at last
    exact visible character (List.mem_of_getLast? last)
  rw [strip, stripWhere, List.append_assoc,
    dropWhile_append_of_stops leftBlank (stops_append present stops right), List.reverse_append,
    dropWhile_append_of_stops (by rwa [List.all_reverse]) stopsReversed, List.reverse_reverse]

end Text

namespace Numeral

def isPart (character : Char) : Bool :=
  Text.isDigit character || character == '+' || character == '-' || character == '.' ||
    isMarkOfExponent character

theorem not_isBlank_of_isPart {character : Char} (part : isPart character = true) :
    Text.isBlank character = false := by
  simp only [isPart, isMarkOfExponent, Bool.or_eq_true, beq_iff_eq] at part
  obtain (((digit | rfl) | rfl) | rfl) | rfl | rfl := part
  · exact Text.not_isBlank_of_isDigit digit
  all_goals decide

theorem isPart_of_isDigit {digits : Text} (all : digits.all Text.isDigit) : digits.all isPart := by
  rw [List.all_eq_true] at all ⊢
  intro digit inside
  simp [isPart, all digit inside]

theorem all_isPart_of_splitSign {text : Text} (rest : (splitSign text).2.all isPart) :
    text.all isPart := by
  unfold splitSign at rest
  split at rest
  · rw [List.all_cons, rest]
    rfl
  · rw [List.all_cons, rest]
    rfl
  · exact rest

theorem all_isPart_of_splitDigits {text : Text} (rest : (splitDigits text).2.all isPart) :
    text.all isPart := by
  rw [← List.takeWhile_append_dropWhile (p := Text.isDigit) (l := text), List.all_append,
    Bool.and_eq_true]
  exact ⟨isPart_of_isDigit List.all_takeWhile, rest⟩

theorem all_isPart_of_splitFraction {text : Text} (rest : (splitFraction text).2.all isPart) :
    text.all isPart := by
  unfold splitFraction at rest
  split at rest
  · rw [List.all_cons, all_isPart_of_splitDigits rest]
    rfl
  · exact rest

theorem all_isPart_of_exponent? {text : Text} (found : (exponent? text).isSome) :
    text.all isPart := by
  unfold exponent? at found
  split at found
  · rfl
  · rename_i mark rest
    dsimp only at found
    split at found
    next isExponent =>
      simp only [Bool.and_eq_true] at isExponent
      obtain ⟨⟨isMark, _⟩, digits⟩ := isExponent
      rw [List.all_cons, Bool.and_eq_true]
      refine ⟨by simp [isPart, isMark], all_isPart_of_splitSign (isPart_of_isDigit digits)⟩
    next => cases found

theorem all_isPart_of_read? {text : Text} (found : (read? text).isSome) : text.all isPart := by
  apply all_isPart_of_splitSign
  apply all_isPart_of_splitDigits
  apply all_isPart_of_splitFraction
  apply all_isPart_of_exponent?
  unfold read? at found
  dsimp only at found
  split at found
  · cases found
  · rwa [Option.isSome_map] at found

theorem ne_nil_of_read? {text : Text} (found : (read? text).isSome) : text ≠ [] := by
  rintro rfl
  cases found

theorem not_isBlank_of_read? {text : Text} (found : (read? text).isSome) :
    ∀ character ∈ text, Text.isBlank character = false := by
  intro character inside
  exact not_isBlank_of_isPart (List.all_eq_true.mp (all_isPart_of_read? found) character inside)

end Numeral

namespace PredicateParts

theorem all_isNotQuote_iff {text : Text} : text.all isNotQuote ↔ '"' ∉ text := by
  rw [List.all_eq_true]
  constructor
  · intro distinct inside
    exact Bool.false_ne_true (distinct _ inside)
  · intro missing character inside
    rw [isNotQuote, bne_iff_ne]
    rintro rfl
    exact missing inside

theorem isNotQuote_of_isBlank {character : Char} (blank : Text.isBlank character = true) :
    isNotQuote character = true := by
  rw [isNotQuote, bne_iff_ne]
  rintro rfl
  cases blank

theorem isNotQuote_of_continuesName {character : Char}
    (continues : continuesName character = true) : isNotQuote character = true := by
  rw [isNotQuote, bne_iff_ne]
  rintro rfl
  cases continues

theorem isNotQuote_of_startsName {character : Char} (starts : startsName character = true) :
    isNotQuote character = true := by
  rw [isNotQuote, bne_iff_ne]
  rintro rfl
  cases starts

theorem all_isNotQuote_of_all {text : Text} {isTaken : Char → Bool} (all : text.all isTaken)
    (unquoted : ∀ {character : Char}, isTaken character = true → isNotQuote character = true) :
    text.all isNotQuote := by
  rw [List.all_eq_true] at all ⊢
  exact fun character inside => unquoted (all character inside)

theorem IsName.all_isNotQuote {name : Text} (isName : IsName name) : name.all isNotQuote := by
  obtain ⟨first, rest, rfl, starts, continues⟩ := isName
  rw [List.all_cons, isNotQuote_of_startsName starts,
    all_isNotQuote_of_all continues isNotQuote_of_continuesName]
  rfl

theorem wholeOperand?_cases {written operand : Text}
    (found : wholeOperand? written = some operand) :
    (written = '"' :: operand ++ ['"'] ∧ operand.all isNotQuote) ∨
      (written = operand ∧ operand.all isBare) := by
  unfold wholeOperand? at found
  split at found
  · rename_i rest
    split at found
    · rename_i closed
      cases found
      left
      refine ⟨?_, List.all_takeWhile⟩
      rw [List.cons_append, ← closed, List.takeWhile_append_dropWhile]
    · cases found
  · split at found
    · rename_i bare
      cases found
      rw [Bool.and_eq_true] at bare
      exact .inr ⟨rfl, bare.2⟩
    · cases found

theorem exists_operand_of_parse? {text : Text} {parts : PredicateParts}
    (parsed : parse? text = some parts) :
    ∃ beginning written, text = beginning ++ written ∧ beginning.all isNotQuote ∧
      wholeOperand? written = some parts.operand := by
  unfold parse? at parsed
  simp only [Option.bind_eq_bind, Option.bind_eq_some_iff] at parsed
  obtain ⟨⟨name, afterName⟩, split, parsed⟩ := parsed
  obtain ⟨⟨comparison, tail⟩, reading, parsed⟩ := List.exists_of_findSome?_eq_some parsed
  obtain ⟨operand, found, rfl⟩ := Option.map_eq_some_iff.mp parsed
  dsimp only at found reading ⊢
  obtain ⟨gap, rest, rfl, beginning⟩ := beginning_of_splitName? split
  rw [splitName?_append beginning.isName beginning.stopsName] at split
  obtain ⟨_, rfl⟩ := Prod.mk.inj (Option.some.inj split)
  rw [Text.dropWhile_append_of_stops beginning.blank beginning.stopsBlank,
    mem_readings_iff] at reading
  subst reading
  obtain ⟨space, written, rfl, blank, stops⟩ := Text.exists_split Text.isBlank tail
  rw [Text.dropWhile_append_of_stops blank stops] at found
  refine ⟨name ++ gap ++ comparison.spelling ++ space, written, by simp, ?_, found⟩
  have spelling : comparison.spelling.all isNotQuote := by
    cases comparison <;> rfl
  simp only [List.all_append, Bool.and_eq_true]
  exact ⟨⟨⟨beginning.isName.all_isNotQuote,
    all_isNotQuote_of_all beginning.blank isNotQuote_of_isBlank⟩, spelling⟩,
    all_isNotQuote_of_all blank isNotQuote_of_isBlank⟩

end PredicateParts

/-- A value that is a numeral as far as its margins do not count, with an information separator
in one of these. -/
def Value.IsUnreadable (value : Text) : Prop :=
  ∃ left numeral right, value = left ++ numeral ++ right ∧ left.all Text.isBlank ∧
    right.all Text.isBlank ∧ (Numeral.read? numeral).isSome ∧
    (left ++ right).any Text.isInformationSeparator

theorem Value.isUnreadable_iff (value : Text) :
    Value.IsUnreadable value ↔ (Numeral.read? (Text.strip value)).isSome ∧
      value.any Text.isInformationSeparator := by
  constructor
  · rintro ⟨left, numeral, right, rfl, leftBlank, rightBlank, isNumeral, separated⟩
    rw [Text.strip_margins (Numeral.ne_nil_of_read? isNumeral)
      (Numeral.not_isBlank_of_read? isNumeral) leftBlank rightBlank]
    refine ⟨isNumeral, ?_⟩
    simp only [List.any_append, Bool.or_eq_true] at separated ⊢
    exact separated.imp_left .inl
  · rintro ⟨isNumeral, separated⟩
    obtain ⟨left, right, same, leftBlank, rightBlank⟩ := Text.exists_margins value
    refine ⟨left, Text.strip value, right, same, leftBlank, rightBlank, isNumeral, ?_⟩
    have unseparated : (Text.strip value).any Text.isInformationSeparator = false := by
      rw [List.any_eq_false]
      intro character inside separates
      have visible := Numeral.not_isBlank_of_read? isNumeral character inside
      rw [Text.isBlank_of_isInformationSeparator separates] at visible
      cases visible
    rw [same, List.any_append, List.any_append, unseparated, Bool.or_false] at separated
    rwa [List.any_append]

theorem Value.quantity?_text (value : Text) :
    Value.quantity? (.text value) =
      match Numeral.read? (Text.strip value) with
      | none => .ok none
      | some numeral =>
        if value.any Text.isInformationSeparator then .error (.unreadableNumeral value)
        else .ok numeral.round.quantity? :=
  rfl

theorem Value.quantity?_eq_error_iff {value : Text} {fault : Fault} :
    Value.quantity? (.text value) = .error fault ↔
      Value.IsUnreadable value ∧ fault = .unreadableNumeral value := by
  rw [Value.isUnreadable_iff, Value.quantity?_text]
  split
  next missing => simp [missing]
  next numeral found =>
    rw [found, Option.isSome_some]
    split
    next separated =>
      simp only [separated, true_and]
      exact ⟨fun same => (Except.error.inj same).symm, fun same => congrArg Except.error same.symm⟩
    next joined => simp [joined]

theorem Value.quantity?_integer_eq_error_iff {number : Int} {fault : Fault} :
    Value.quantity? (.integer number) = .error fault ↔
      Binary64.quantityOfInt? number = none ∧ fault = .integerTooLarge := by
  generalize same : Value.integer number = value
  fun_cases Value.quantity? value with
  | case1 other quantity found =>
      cases same
      simp [found]
  | case2 other missing =>
      cases same
      simp [missing, @eq_comm _ fault]
  | case3 | case4 | case5 | case6 => cases same
  | case7 value notInteger => exact absurd same.symm (notInteger number)

namespace Predicate

def HasUnreadable (text value : Text) : Prop :=
  isValid text = true ∧ Value.IsUnreadable value ∧
    ∃ beginning, '"' ∉ beginning ∧ text = beginning ++ '"' :: value ++ ['"']

theorem hasUnreadable_iff {text value : Text} :
    HasUnreadable text value ↔
      ∃ parts, PredicateParts.parse? text = some parts ∧ parts.operand = value ∧
        Value.IsUnreadable value := by
  constructor
  · rintro ⟨valid, unreadable, beginning, unquoted, same⟩
    obtain ⟨parts, parsed⟩ := Option.isSome_iff_exists.mp valid
    obtain ⟨other, written, split, otherUnquoted, found⟩ :=
      PredicateParts.exists_operand_of_parse? parsed
    refine ⟨parts, parsed, ?_, unreadable⟩
    -- Both the value and the operand begin at the first quote of the text.
    have fromQuote : text.dropWhile PredicateParts.isNotQuote = '"' :: value ++ ['"'] := by
      rw [same, List.append_assoc]
      apply Text.dropWhile_append_of_stops (PredicateParts.all_isNotQuote_iff.mpr unquoted)
      rintro _ ⟨⟩
      rfl
    rw [split, List.dropWhile_append_of_pos (List.all_eq_true.mp otherUnquoted)] at fromQuote
    rcases PredicateParts.wholeOperand?_cases found with ⟨rfl, _⟩ | ⟨rfl, bare⟩
    · rw [List.cons_append, List.dropWhile_cons_of_neg (by decide)] at fromQuote
      exact List.append_cancel_right (List.cons.inj fromQuote).2
    · have quoted : '"' ∈ parts.operand := by
        apply (List.dropWhile_sublist PredicateParts.isNotQuote).subset
        rw [fromQuote]
        exact List.mem_cons_self
      exact absurd rfl (PredicateParts.ne_quote_of_isBare (List.all_eq_true.mp bare '"' quoted))
  · rintro ⟨parts, parsed, rfl, unreadable⟩
    refine ⟨by rw [isValid, parsed, Option.isSome_some], unreadable, ?_⟩
    obtain ⟨beginning, written, rfl, unquoted, found⟩ :=
      PredicateParts.exists_operand_of_parse? parsed
    refine ⟨beginning, PredicateParts.all_isNotQuote_iff.mp unquoted, ?_⟩
    rcases PredicateParts.wholeOperand?_cases found with ⟨rfl, _⟩ | ⟨rfl, bare⟩
    · rw [List.append_assoc]
    -- A separator is white space, which an operand without quotes has none of.
    · obtain ⟨_, separated⟩ := (Value.isUnreadable_iff parts.operand).mp unreadable
      obtain ⟨character, inside, separates⟩ := List.any_eq_true.mp separated
      have visible := PredicateParts.not_isBlank_of_isBare
        (List.all_eq_true.mp bare character inside)
      rw [Text.isBlank_of_isInformationSeparator separates] at visible
      cases visible

/-- A valid predicate is refused only for an unreadable value. -/
theorem build_eq_error_iff {text : Text} {fault : Fault} (valid : isValid text = true) :
    build text = .error fault ↔
      ∃ value, HasUnreadable text value ∧ fault = .unreadableNumeral value := by
  obtain ⟨parts, parsed⟩ := Option.isSome_iff_exists.mp valid
  have refused : build text = .error fault ↔
      Value.quantity? (.text parts.operand) = .error fault := by
    rw [build, parsed]
    simp only [bind, Except.bind]
    cases Value.quantity? (.text parts.operand) <;> simp [pure, Except.pure]
  rw [refused, Value.quantity?_eq_error_iff]
  constructor
  · rintro ⟨unreadable, rfl⟩
    exact ⟨parts.operand, hasUnreadable_iff.mpr ⟨parts, parsed, rfl, unreadable⟩, rfl⟩
  · rintro ⟨value, hasUnreadable, rfl⟩
    obtain ⟨others, alsoParsed, rfl, unreadable⟩ := hasUnreadable_iff.mp hasUnreadable
    rw [parsed] at alsoParsed
    cases alsoParsed
    exact ⟨unreadable, rfl⟩

end Predicate

theorem PredicateKind.IsSupplied.unreadable_of_build {Effect : Type → Type} {Item : Type}
    {kind : PredicateKind Effect Item} (supplied : kind.IsSupplied) {text : Text} {fault : Fault}
    (valid : kind.isValid text = true) (failed : kind.build text = .error fault) :
    ∃ value, fault = .unreadableNumeral value := by
  cases supplied with
  | standard | searched =>
      obtain ⟨value, _, same⟩ := (Predicate.build_eq_error_iff valid).mp failed
      exact ⟨value, same⟩
  | markers => cases failed

end EventFilter
