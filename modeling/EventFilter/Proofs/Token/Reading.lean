import EventFilter.Proofs.Fault
import EventFilter.Text.Stops
import EventFilter.Token.Rendering

/-!
Reading tokens back from their written forms.

`read?` skips spaces. Anywhere else it takes an integer with every digit that follows, or one of the
five other tokens. The texts that it reads are those in which spelled tokens stand one behind the
other (`Spaced`), and both written forms of a token list are such texts.
-/

namespace EventFilter.Token

open Text (Stops isAsciiDigit)

def natural? (text : Text) : Option (Nat × Text) :=
  let digits := text.takeWhile isAsciiDigit
  if digits = [] then none
  else some (Text.digitsToNat digits, text.dropWhile isAsciiDigit)

def integer? : Text → Option (Int × Text)
  | '-' :: rest => (natural? rest).map fun (magnitude, following) => (-magnitude, following)
  | text => (natural? text).map fun (magnitude, following) => (magnitude, following)

def first? : Text → Option (Token × Text)
  | '!' :: rest => some (connective .not, rest)
  | '&' :: '&' :: rest => some (connective .and, rest)
  | '|' :: '|' :: rest => some (connective .or, rest)
  | '(' :: rest => some (openGroup, rest)
  | ')' :: rest => some (closeGroup, rest)
  | text => (integer? text).map fun (index, rest) => (symbol index, rest)

/-- The texts of an integer. Zeros in front of it are allowed. -/
inductive IsDecimal : Text → Int → Prop
  | natural {digits : Text} : digits ≠ [] → digits.all isAsciiDigit = true →
      IsDecimal digits (Text.digitsToNat digits)
  | negative {digits : Text} : digits ≠ [] → digits.all isAsciiDigit = true →
      IsDecimal ('-' :: digits) (-Text.digitsToNat digits)

/-- A text is a spelled token with some text behind it, which does not go on with the digits of the
token. -/
inductive Begins : Text → Token → Text → Prop
  | connective (operator : Connective) (following : Text) :
      Begins (operator.spelling ++ following) (.connective operator) following
  | openGroup (following : Text) : Begins ('(' :: following) .openGroup following
  | closeGroup (following : Text) : Begins (')' :: following) .closeGroup following
  | symbol {written following : Text} {index : Int} : IsDecimal written index →
      Stops isAsciiDigit following → Begins (written ++ following) (.symbol index) following

section Integers

variable {digits text following : Text} {magnitude : Nat} {value : Int}

theorem natural?_append (present : digits ≠ []) (all : digits.all isAsciiDigit = true)
    (stops : Stops isAsciiDigit following) :
    natural? (digits ++ following) = some (Text.digitsToNat digits, following) := by
  rw [natural?, Text.takeWhile_append_of_stops all stops,
    Text.dropWhile_append_of_stops all stops]
  exact if_neg present

theorem exists_of_natural? (found : natural? text = some (magnitude, following)) :
    ∃ digits, text = digits ++ following ∧ digits ≠ [] ∧ digits.all isAsciiDigit = true ∧
      Text.digitsToNat digits = magnitude ∧ Stops isAsciiDigit following := by
  obtain ⟨digits, rest, rfl, all, stops⟩ := Text.exists_split isAsciiDigit text
  by_cases absent : digits = []
  · subst absent
    rw [List.nil_append, natural?, Text.takeWhile_eq_nil_iff_stops.mpr stops] at found
    cases found
  · rw [natural?_append absent all stops] at found
    cases found
    exact ⟨digits, rfl, absent, all, rfl, stops⟩

theorem integer?_append (decimal : IsDecimal text value) (stops : Stops isAsciiDigit following) :
    integer? (text ++ following) = some (value, following) := by
  cases decimal with
  | negative present all =>
      rw [List.cons_append, integer?, natural?_append present all stops]
      rfl
  | natural present all =>
      have found := natural?_append present all stops
      unfold integer?
      split
      next rest isNegative =>
        obtain ⟨first, others, rfl⟩ := List.exists_cons_of_ne_nil present
        cases isNegative
        cases all
      next =>
        rw [found]
        rfl

theorem exists_of_integer? (found : integer? text = some (value, following)) :
    ∃ written, text = written ++ following ∧ IsDecimal written value ∧
      Stops isAsciiDigit following := by
  unfold integer? at found
  split at found
  all_goals
    obtain ⟨⟨magnitude, rest⟩, isNatural, same⟩ := Option.map_eq_some_iff.mp found
    cases same
    obtain ⟨digits, rfl, present, all, rfl, stops⟩ := exists_of_natural? isNatural
  · exact ⟨'-' :: digits, rfl, .negative present all, stops⟩
  · exact ⟨digits, rfl, .natural present all, stops⟩

theorem isDecimal_decimal (value : Int) : IsDecimal (Text.decimal value) value := by
  have present : Nat.toDigits 10 value.natAbs ≠ [] := Nat.toDigits_ne_nil
  have all : (Nat.toDigits 10 value.natAbs).all isAsciiDigit = true :=
    List.all_eq_true.mpr fun _ inside => Nat.isDigit_of_mem_toDigits (by omega) (by omega) inside
  have magnitude : Text.digitsToNat (Nat.toDigits 10 value.natAbs) = value.natAbs :=
    Nat.ofDigitChars_ten_toDigits
  unfold Text.decimal
  split
  next isNegative =>
    have decimal := IsDecimal.negative present all
    rwa [magnitude, Int.ofNat_natAbs_of_nonpos (by omega), Int.neg_neg] at decimal
  next =>
    have decimal := IsDecimal.natural present all
    rwa [magnitude, Int.natAbs_of_nonneg (by omega)] at decimal

theorem IsDecimal.exists_first (decimal : IsDecimal text value) :
    ∃ first rest, text = first :: rest ∧ (first = '-' ∨ isAsciiDigit first = true) := by
  cases decimal with
  | negative => exact ⟨'-', _, rfl, .inl rfl⟩
  | natural present all =>
      obtain ⟨first, rest, rfl⟩ := List.exists_cons_of_ne_nil present
      exact ⟨first, rest, rfl, .inr (List.all_eq_true.mp all first List.mem_cons_self)⟩

theorem exists_last_digit (present : digits ≠ []) (all : digits.all isAsciiDigit = true) :
    ∃ last, digits.getLast? = some last ∧ isAsciiDigit last = true :=
  ⟨_, List.getLast?_eq_some_getLast present,
    List.all_eq_true.mp all _ (List.getLast_mem present)⟩

theorem IsDecimal.exists_last (decimal : IsDecimal text value) :
    ∃ last, text.getLast? = some last ∧ isAsciiDigit last = true := by
  cases decimal with
  | natural present all => exact exists_last_digit present all
  | @negative digits present all =>
      have same : (['-'] ++ digits).getLast? = digits.getLast? :=
        Text.getLast?_append_of_ne_nil present ['-']
      rw [List.singleton_append] at same
      rw [same]
      exact exists_last_digit present all

end Integers

section Tokens

variable {text following : Text} {token : Token} {tokens : List Token}

theorem Begins.exists_first (begins : Begins text token following) :
    ∃ first rest, text = first :: rest ∧ first ≠ ' ' ∧ following.length ≤ rest.length := by
  cases begins with
  | connective operator => cases operator <;> exact ⟨_, _, rfl, by decide, by simp⟩
  | openGroup | closeGroup => exact ⟨_, _, rfl, by decide, Nat.le_refl _⟩
  | symbol decimal =>
      obtain ⟨first, rest, rfl, starts⟩ := decimal.exists_first
      refine ⟨first, rest ++ following, rfl, ?_, by simp⟩
      rintro rfl
      exact absurd starts (by decide)

theorem first?_of_isDecimal {index : Int} (decimal : IsDecimal text index)
    (stops : Stops isAsciiDigit following) :
    first? (text ++ following) = some (.symbol index, following) := by
  obtain ⟨first, rest, written, starts⟩ := decimal.exists_first
  unfold first?
  split
  case h_6 =>
    rw [integer?_append decimal stops]
    rfl
  -- An integer begins with none of the characters of the other tokens.
  all_goals
    rename_i same
    rw [written, List.cons_append, List.cons.injEq] at same
    rw [same.1] at starts
    exact absurd starts (by decide)

theorem first?_eq_some_iff :
    first? text = some (token, following) ↔ Begins text token following := by
  constructor
  · intro found
    unfold first? at found
    split at found
    case h_6 =>
      obtain ⟨⟨index, rest⟩, isInteger, same⟩ := Option.map_eq_some_iff.mp found
      cases same
      obtain ⟨written, rfl, decimal, stops⟩ := exists_of_integer? isInteger
      exact .symbol decimal stops
    all_goals cases found
    · exact .connective .not _
    · exact .connective .and _
    · exact .connective .or _
    · exact .openGroup _
    · exact .closeGroup _
  · intro begins
    cases begins with
    | connective operator => cases operator <;> rfl
    | openGroup | closeGroup => rfl
    | symbol decimal stops => exact first?_of_isDecimal decimal stops

theorem length_lt_of_first? (found : first? text = some (token, following)) :
    following.length < text.length := by
  obtain ⟨first, rest, rfl, -, short⟩ := (first?_eq_some_iff.mp found).exists_first
  exact Nat.lt_succ_of_le short

end Tokens

def read? : Text → Option (List Token)
  | [] => some []
  | first :: rest =>
    if first = ' ' then read? rest
    else
      match _found : first? (first :: rest) with
      | none => none
      | some (token, following) => (read? following).map (token :: ·)
termination_by text => text.length
decreasing_by
  · exact Nat.lt_succ_self _
  · exact length_lt_of_first? ‹_›

/-- Spelled tokens one behind the other, with any spaces in front of each and behind the last. -/
inductive Spaced : List Token → Text → Prop
  | nil : Spaced [] []
  | space {tokens : List Token} {text : Text} : Spaced tokens text → Spaced tokens (' ' :: text)
  | token {token : Token} {tokens : List Token} {text following : Text} :
      Begins text token following → Spaced tokens following → Spaced (token :: tokens) text

section Texts

variable {text following : Text} {token : Token} {tokens : List Token}

theorem Spaced.read? (spaced : Spaced tokens text) : read? text = some tokens := by
  induction spaced with
  | nil => rw [Token.read?]
  | space spaced ih => rw [Token.read?, if_pos rfl, ih]
  | @token token tokens text following begins spaced ih =>
      obtain ⟨first, rest, rfl, visible, -⟩ := begins.exists_first
      have found := first?_eq_some_iff.mpr begins
      rw [Token.read?, if_neg visible]
      split
      next missing =>
        rw [found] at missing
        cases missing
      next again =>
        rw [found] at again
        cases again
        rw [ih]
        rfl

theorem spaced_of_read? (found : read? text = some tokens) : Spaced tokens text := by
  fun_induction read? text generalizing tokens with
  | case1 =>
      cases found
      exact .nil
  | case2 rest ih => exact .space (ih found)
  | case3 => cases found
  | case4 first rest visible token following begins ih =>
      obtain ⟨others, isRead, rfl⟩ := Option.map_eq_some_iff.mp found
      exact .token (first?_eq_some_iff.mp begins) (ih isRead)

/-- A text is read as some tokens exactly if they are spelled in it one behind the other. -/
theorem read?_eq_some_iff : read? text = some tokens ↔ Spaced tokens text :=
  ⟨spaced_of_read?, Spaced.read?⟩

example : Token.read? " 007-2&&".toList =
    some [.symbol 7, .symbol (-2), .connective .and] := by cbv

end Texts

section WrittenForms

variable {token : Token} {tokens : List Token} {following : Text}

theorem bindsNext_decimal (bound : Bool) (index : Int) :
    bindsNext bound (Text.decimal index) = false := by
  obtain ⟨last, isLast, isDigit⟩ := (isDecimal_decimal index).exists_last
  rw [bindsNext, isLast]
  simp only [Bool.or_eq_false_iff, beq_eq_false_iff_ne]
  constructor <;> rintro rfl <;> cases isDigit

theorem begins_text (bound : Bool) (known : ∀ text, token ≠ .other text)
    (stops : bindsNext bound token.text = false → Stops isAsciiDigit following) :
    Begins (token.text ++ following) token following := by
  cases token with
  | symbol index => exact .symbol (isDecimal_decimal index) (stops (bindsNext_decimal bound index))
  | connective operator => exact .connective operator following
  | openGroup => exact .openGroup following
  | closeGroup => exact .closeGroup following
  | other text => exact absurd rfl (known text)

theorem stops_space (text : Text) : Stops isAsciiDigit (' ' :: text) := by
  rintro _ ⟨⟩
  rfl

theorem glueAfter_cons (bound : Bool) (text : Text) (texts : List Text) :
    glueAfter bound (text :: texts) =
      if bound = true ∨ text = [')'] then text ++ glueAfter (bindsNext bound text) texts
      else ' ' :: (text ++ glueAfter (bindsNext bound text) texts) := by
  simp only [glueAfter, Bool.or_eq_true, beq_iff_eq]
  split <;> rfl

theorem spaced_glueAfter (known : ∀ token ∈ tokens, ∀ text, token ≠ .other text) (bound : Bool) :
    Spaced tokens (glueAfter bound (tokens.map text)) ∧
      (bound = false → Stops isAsciiDigit (glueAfter bound (tokens.map text))) := by
  -- Unbound, the texts begin with a space or with a closing parenthesis, so an integer can stand
  -- in front of them.
  induction tokens generalizing bound with
  | nil => exact ⟨.nil, fun _ _ => nofun⟩
  | cons token tokens ih =>
      obtain ⟨knownFirst, knownRest⟩ := List.forall_mem_cons.mp known
      obtain ⟨spaced, stops⟩ := ih knownRest (bindsNext bound token.text)
      have begins := begins_text bound knownFirst stops
      rw [List.map_cons, glueAfter_cons]
      split
      next attached =>
        refine ⟨.token begins spaced, fun unbound => ?_⟩
        have closes : token.text = [')'] := by simpa [unbound] using attached
        rw [closes]
        rintro _ ⟨⟩
        rfl
      next => exact ⟨.space (.token begins spaced), fun _ => stops_space _⟩

theorem spaced_glue (known : ∀ token ∈ tokens, ∀ text, token ≠ .other text) :
    Spaced tokens (glue (tokens.map text)) := by
  cases tokens with
  | nil => exact .nil
  | cons token tokens =>
      obtain ⟨knownFirst, knownRest⟩ := List.forall_mem_cons.mp known
      obtain ⟨spaced, stops⟩ := spaced_glueAfter knownRest (bindsNext false token.text)
      exact .token (begins_text false knownFirst stops) spaced

theorem spaced_joinWith (known : ∀ token ∈ tokens, ∀ text, token ≠ .other text) :
    Spaced tokens (Text.joinWith [' '] (tokens.map text)) := by
  induction tokens with
  | nil => exact .nil
  | cons token tokens ih =>
      obtain ⟨knownFirst, knownRest⟩ := List.forall_mem_cons.mp known
      cases tokens with
      | nil =>
          have begins : Begins (token.text ++ []) token [] :=
            begins_text false knownFirst fun _ _ => nofun
          rw [List.append_nil] at begins
          exact .token begins .nil
      | cons next others =>
          rw [List.map_cons, List.map_cons, Text.joinWith, List.append_assoc]
          · exact .token (begins_text false knownFirst fun _ => stops_space _)
              (.space (ih knownRest))
          · exact nofun

theorem mapM_written (tokens : List Token) :
    tokens.mapM written =
      if tokens.all isWritable then .ok (tokens.map text) else .error .tooManyDigits := by
  induction tokens with
  | nil => rfl
  | cons token rest ih =>
      rw [List.mapM_cons, ih, written, List.all_cons]
      cases token.isWritable with
      | false => rfl
      | true => cases rest.all isWritable <;> rfl

theorem render_eq (tokens : List Token) :
    render tokens =
      if tokens.all isWritable then .ok (glue (tokens.map text)) else .error .tooManyDigits := by
  rw [render, mapM_written]
  split <;> rfl

theorem listing_eq (tokens : List Token) :
    listing tokens =
      if tokens.all isWritable then .ok (Text.joinWith [' '] (tokens.map text))
      else .error .tooManyDigits := by
  rw [listing, mapM_written]
  split <;> rfl

theorem read?_of_render {rendered : Text} (known : ∀ token ∈ tokens, ∀ text, token ≠ .other text)
    (isRendered : render tokens = .ok rendered) : Token.read? rendered = some tokens := by
  rw [render_eq] at isRendered
  split at isRendered
  · cases isRendered
    exact read?_eq_some_iff.mpr (spaced_glue known)
  · cases isRendered

/-- Integers, connectives and parentheses in any order have two written forms, unless an integer
has too many digits. Both are read as these tokens again, so two lists of them are never rendered
alike. -/
theorem written_forms_read_back (tokens : List Token)
    (known : ∀ token ∈ tokens, ∀ text, token ≠ .other text) :
    ((∀ index, .symbol index ∈ tokens → index.natAbs < Text.digitBound) →
      ∃ rendered listed, render tokens = .ok rendered ∧ listing tokens = .ok listed ∧
        Token.read? rendered = some tokens ∧ Token.read? listed = some tokens) ∧
    (∀ index, .symbol index ∈ tokens → Text.digitBound ≤ index.natAbs →
      render tokens = .error .tooManyDigits ∧ listing tokens = .error .tooManyDigits) ∧
    ∀ (others : List Token) (rendered : Text), (∀ token ∈ others, ∀ text, token ≠ .other text) →
      render tokens = .ok rendered → render others = .ok rendered → others = tokens := by
  refine ⟨fun writable => ?_, fun index inside digits => ?_,
    fun others rendered knownOthers isRendered alike => ?_⟩
  · have writable := all_isWritable_iff.mpr writable
    rw [render_eq, listing_eq, writable]
    exact ⟨_, _, rfl, rfl, read?_eq_some_iff.mpr (spaced_glue known),
      read?_eq_some_iff.mpr (spaced_joinWith known)⟩
  · rw [render_eq, listing_eq, all_isWritable_eq_false inside digits]
    exact ⟨rfl, rfl⟩
  · have readBack := read?_of_render known isRendered
    rw [read?_of_render knownOthers alike] at readBack
    exact Option.some.inj readBack

theorem written_forms_read_back_glued :
    (∀ token ∈ [Token.closeGroup, .symbol 0, .symbol (-12), .connective .not, .connective .not,
        .openGroup, .symbol 7, .closeGroup, .closeGroup, .openGroup, .connective .and],
      ∀ text, token ≠ .other text) ∧
    (∀ index, .symbol index ∈ [Token.closeGroup, .symbol 0, .symbol (-12), .connective .not,
        .connective .not, .openGroup, .symbol 7, .closeGroup, .closeGroup, .openGroup,
        .connective .and] →
      index.natAbs < Text.digitBound) ∧
    Token.read? ") 0 -12 !!(7)) (&&".toList =
      some [.closeGroup, .symbol 0, .symbol (-12), .connective .not, .connective .not,
        .openGroup, .symbol 7, .closeGroup, .closeGroup, .openGroup, .connective .and] ∧
    Token.read? ") 0 -12 ! ! ( 7 ) ) ( &&".toList =
      some [.closeGroup, .symbol 0, .symbol (-12), .connective .not, .connective .not,
        .openGroup, .symbol 7, .closeGroup, .closeGroup, .openGroup, .connective .and] := by
  let tokens : List Token := [.closeGroup, .symbol 0, .symbol (-12), .connective .not,
    .connective .not, .openGroup, .symbol 7, .closeGroup, .closeGroup, .openGroup,
    .connective .and]
  have known : ∀ token ∈ tokens, ∀ text, token ≠ .other text := by simp [tokens]
  have writable : ∀ index, .symbol index ∈ tokens →
      index.natAbs < Text.digitBound := all_isWritable_iff.mp (by decide)
  obtain ⟨rendered, listed, isRendered, isListed, readBack, listedBack⟩ :=
    (written_forms_read_back tokens known).1 writable
  cases isRendered
  cases isListed
  exact ⟨known, writable, readBack, listedBack⟩

theorem not_written_forms_read_back :
    ¬∃ rendered, render [.symbol Text.digitBound] = .ok rendered ∧
      Token.read? rendered = some [.symbol Text.digitBound] := by
  rintro ⟨rendered, isRendered, -⟩
  rw [render_eq, all_isWritable_eq_false List.mem_cons_self Text.digitBound_le_natAbs] at isRendered
  cases isRendered

end WrittenForms

end EventFilter.Token
