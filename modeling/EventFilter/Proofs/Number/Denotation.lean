import EventFilter.Proofs.Number.CaseFolding
import EventFilter.Proofs.Number.Rounding
import EventFilter.Text.Stops
import Mathlib.Tactic.FieldSimp

/-!
The numbers that numerals denote.

`Denotes` is the grammar of numerals with their values: digits count by their place, and the
exponent moves the point. A text is read as a numeral exactly if it denotes a number, and rounding
depends on this number only.
-/

namespace EventFilter.Numeral

open Text (Stops)

inductive IsSign : Text → Bool → Prop
  | none : IsSign [] false
  | plus : IsSign ['+'] false
  | minus : IsSign ['-'] true

def factor (negative : Bool) : Int :=
  if negative then -1 else 1

/-- The number that digits of any script are written for in base ten. -/
def decimal : Text → Nat
  | [] => 0
  | digit :: rest => (Text.digitValue? digit).getD 0 * 10 ^ rest.length + decimal rest

inductive IsFraction : Text → Text → Prop
  | none : IsFraction [] []
  | point {digits : Text} : digits.all Text.isDigit = true → IsFraction ('.' :: digits) digits

inductive IsExponent : Text → Int → Prop
  | none : IsExponent [] 0
  | marked {mark : Char} {sign digits : Text} {negative : Bool} :
      isMarkOfExponent mark = true → IsSign sign negative → digits ≠ [] →
      digits.all Text.isDigit = true →
      IsExponent (mark :: (sign ++ digits)) (factor negative * decimal digits)

/-- The texts that are numerals, and the number that each denotes. -/
inductive Denotes : Text → ℚ → Prop
  | parts {sign whole point fraction ending : Text} {negative : Bool} {power : Int} :
      IsSign sign negative → whole.all Text.isDigit = true → IsFraction point fraction →
      whole ++ fraction ≠ [] → IsExponent ending power →
      Denotes (sign ++ (whole ++ (point ++ ending)))
        (factor negative * (decimal whole + decimal fraction / 10 ^ fraction.length) * 10 ^ power)

section Digits

theorem ofDigits_eq_decimal (digits : Text) : ofDigits digits = decimal digits := by
  -- The digits that were read before count ten times more with each digit.
  have general (value : Nat) :
      digits.foldl (fun value digit => 10 * value + (Text.digitValue? digit).getD 0) value =
        value * 10 ^ digits.length + decimal digits := by
    induction digits generalizing value with
    | nil => simp [decimal]
    | cons digit rest ih =>
        rw [List.foldl_cons, ih, decimal, List.length_cons, pow_succ]
        ring
  have whole := general 0
  rwa [Nat.zero_mul, Nat.zero_add] at whole

theorem decimal_append (first second : Text) :
    decimal (first ++ second) = decimal first * 10 ^ second.length + decimal second := by
  induction first with
  | nil => simp [decimal]
  | cons digit rest ih =>
      rw [List.cons_append, decimal, ih, decimal, List.length_append, pow_add]
      ring

end Digits

section Parts

variable {text rest sign digits point fraction ending : Text} {negative : Bool} {power : Int}

theorem splitSign_append (isSign : IsSign sign negative)
    (unsigned : ∀ first ∈ rest.head?, first ∉ ['-', '+']) :
    splitSign (sign ++ rest) = (negative, rest) := by
  cases isSign with
  | plus | minus => rfl
  | none =>
      cases rest with
      | nil => rfl
      | cons first others => exact splitSign_of_unsigned (unsigned first rfl) others

theorem isSign_of_splitSign (split : splitSign text = (negative, rest)) :
    ∃ sign, text = sign ++ rest ∧ IsSign sign negative := by
  unfold splitSign at split
  split at split <;> cases split
  · exact ⟨['-'], rfl, .minus⟩
  · exact ⟨['+'], rfl, .plus⟩
  · exact ⟨[], rfl, .none⟩

theorem splitDigits_append (all : digits.all Text.isDigit = true)
    (stops : Stops Text.isDigit rest) : splitDigits (digits ++ rest) = (digits, rest) := by
  rw [splitDigits, Text.takeWhile_append_of_stops all stops,
    Text.dropWhile_append_of_stops all stops]

theorem ne_of_isDigit {character : Char} (digit : Text.isDigit character = true) :
    character ∉ ['-', '+'] ∧ character ∉ ['.'] := by
  constructor <;> intro isMark <;> simp only [List.mem_cons, List.not_mem_nil, or_false] at isMark
  · rcases isMark with rfl | rfl <;> cases digit
  · cases isMark
    cases digit

theorem IsExponent.stops (isExponent : IsExponent ending power) :
    Stops Text.isDigit ending ∧ ending.head? ≠ some '.' := by
  cases isExponent with
  | none => simp [Stops]
  | marked isMark =>
      rcases isMarkOfExponent_iff.mp isMark with rfl | rfl <;>
        exact ⟨by rintro _ ⟨⟩; decide +kernel, by simp⟩

theorem splitFraction_append (isFraction : IsFraction point fraction)
    (isExponent : IsExponent ending power) :
    splitFraction (point ++ ending) = (fraction, ending) := by
  obtain ⟨stops, noPoint⟩ := isExponent.stops
  cases isFraction with
  | point all => exact splitDigits_append all stops
  | none =>
      cases ending with
      | nil => rfl
      | cons first others =>
          refine splitFraction_of_ne ?_ others
          simpa using noPoint

theorem isFraction_of_splitFraction (split : splitFraction text = (fraction, ending)) :
    ∃ point, text = point ++ ending ∧ IsFraction point fraction := by
  unfold splitFraction at split
  split at split
  · rename_i digits
    cases split
    refine ⟨'.' :: digits.takeWhile Text.isDigit, ?_, .point List.all_takeWhile⟩
    rw [List.cons_append, List.takeWhile_append_dropWhile]
  · cases split
    exact ⟨[], rfl, .none⟩

theorem factor_mul (negative : Bool) (number : Int) :
    factor negative * number = if negative then -number else number := by
  cases negative <;> simp [factor]

theorem unsigned_of_digits (present : digits ≠ []) (all : digits.all Text.isDigit = true)
    (rest : Text) : ∀ first ∈ (digits ++ rest).head?, first ∉ ['-', '+'] := by
  obtain ⟨digit, others, rfl⟩ := List.exists_cons_of_ne_nil present
  rintro _ ⟨⟩
  exact (ne_of_isDigit (List.all_eq_true.mp all digit List.mem_cons_self)).1

theorem exponent?_eq_some_iff : exponent? ending = some power ↔ IsExponent ending power := by
  constructor
  · intro found
    cases ending with
    | nil =>
        cases found
        exact .none
    | cons mark rest =>
        rw [exponent?] at found
        obtain ⟨⟨negative, digits⟩, split⟩ : ∃ parts, splitSign rest = parts := ⟨_, rfl⟩
        obtain ⟨sign, rfl, isSign⟩ := isSign_of_splitSign split
        rw [split] at found
        simp only [Bool.and_eq_true, Bool.not_eq_true', List.isEmpty_eq_false_iff,
          Option.ite_none_right_eq_some, Option.some.injEq] at found
        obtain ⟨⟨⟨isMark, present⟩, all⟩, rfl⟩ := found
        rw [ofDigits_eq_decimal, ← factor_mul]
        exact .marked isMark isSign present all
  · intro isExponent
    cases isExponent with
    | none => rfl
    | @marked mark sign digits negative isMark isSign present all =>
        have split : splitSign (sign ++ digits) = (negative, digits) := by
          have unsigned := unsigned_of_digits present all []
          rw [List.append_nil] at unsigned
          exact splitSign_append isSign unsigned
        simp [exponent?, split, isMark, all, present, ofDigits_eq_decimal, factor_mul]

end Parts

def value (numeral : Numeral) : ℚ :=
  factor numeral.negative * numeral.magnitude

theorem value_parts (negative : Bool) (whole fraction : Text) (power : Int) :
    value ⟨negative, ofDigits (whole ++ fraction), power - fraction.length⟩ =
      factor negative * (decimal whole + decimal fraction / 10 ^ fraction.length) * 10 ^ power := by
  have positive : (10 : ℚ) ^ fraction.length ≠ 0 := by positivity
  rw [value, magnitude, ofDigits_eq_decimal, decimal_append, zpow_sub₀ (by norm_num), zpow_natCast]
  push_cast
  field_simp

theorem exists_numeral_of_denotes {text : Text} {number : ℚ} (denotes : Denotes text number) :
    ∃ numeral, read? text = some numeral ∧ numeral.value = number := by
  obtain @⟨sign, whole, point, fraction, ending, negative, power, isSign, all, isFraction,
    present, isExponent⟩ := denotes
  have unsigned : ∀ first ∈ (whole ++ (point ++ ending)).head?, first ∉ ['-', '+'] := by
    cases whole with
    | cons digit others => exact unsigned_of_digits (List.cons_ne_nil _ _) all _
    | nil =>
        cases isFraction with
        | none => exact absurd rfl present
        | point =>
            rintro _ ⟨⟩
            decide
  have stops : Stops Text.isDigit (point ++ ending) := by
    cases isFraction with
    | none => exact isExponent.stops.1
    | point =>
        rintro _ ⟨⟩
        decide +kernel
  have some : ¬(whole.isEmpty && fraction.isEmpty) = true := by
    simpa [List.isEmpty_iff] using present
  have signed := splitSign_append isSign unsigned
  refine ⟨⟨negative, ofDigits (whole ++ fraction), power - fraction.length⟩, ?_, value_parts ..⟩
  simp only [read?, signed, splitDigits_append all stops,
    splitFraction_append isFraction isExponent]
  rw [if_neg some, exponent?_eq_some_iff.mpr isExponent, Option.map_some]

theorem denotes_of_read? {text : Text} {numeral : Numeral} (found : read? text = some numeral) :
    Denotes text numeral.value := by
  obtain ⟨⟨negative, unsigned⟩, signed⟩ : ∃ parts, splitSign text = parts := ⟨_, rfl⟩
  obtain ⟨⟨fraction, ending⟩, split⟩ :
    ∃ parts, splitFraction (unsigned.dropWhile Text.isDigit) = parts := ⟨_, rfl⟩
  obtain ⟨sign, rfl, isSign⟩ := isSign_of_splitSign signed
  obtain ⟨point, after, isFraction⟩ := isFraction_of_splitFraction split
  simp only [read?, signed, splitDigits, split, Option.ite_none_left_eq_some,
    Option.map_eq_some_iff, Bool.and_eq_true, List.isEmpty_iff] at found
  obtain ⟨present, power, isPower, rfl⟩ := found
  have some : unsigned.takeWhile Text.isDigit ++ fraction ≠ [] := by
    simpa [List.append_eq_nil_iff] using present
  have denotes := Denotes.parts isSign List.all_takeWhile isFraction some
    (exponent?_eq_some_iff.mp isPower)
  rwa [← after, List.takeWhile_append_dropWhile, ← value_parts] at denotes

/-- A text is read as a numeral exactly if it denotes a number, which is that of the numeral. -/
theorem denotes_iff {text : Text} {number : ℚ} :
    Denotes text number ↔ ∃ numeral, read? text = some numeral ∧ numeral.value = number := by
  refine ⟨exists_numeral_of_denotes, ?_⟩
  rintro ⟨numeral, found, rfl⟩
  exact denotes_of_read? found

end EventFilter.Numeral
