import EventFilter.Proofs.Number.Overflow
import EventFilter.Proofs.Predicate.Lookup
import EventFilter.Proofs.Predicate.Written

/-!
Testing a predicate.

The value under the name is looked up, then compared as a number or as text. Only the look-up and
the reading of the value as a number can fail, and a value is read as a number only if the value
of the predicate is one.
-/

namespace EventFilter

namespace Value

/-- A text that is a numeral as far as its margins do not count, and not too large for a number. -/
def IsFinite (value : Text) : Prop :=
  ∃ left written right numeral, value = left ++ written ++ right ∧ left.all Text.isBlank ∧
    right.all Text.isBlank ∧ Numeral.read? written = some numeral ∧
    numeral.magnitude < Binary64.overflowBound

theorem isFinite_iff (value : Text) :
    IsFinite value ↔ ∃ numeral, Numeral.read? (Text.strip value) = some numeral ∧
      numeral.magnitude < Binary64.overflowBound := by
  constructor
  · rintro ⟨left, written, right, numeral, rfl, leftBlank, rightBlank, read, bounded⟩
    have isNumeral := Option.isSome_of_eq_some read
    rw [Text.strip_margins (Numeral.ne_nil_of_read? isNumeral)
      (Numeral.not_isBlank_of_read? isNumeral) leftBlank rightBlank]
    exact ⟨numeral, read, bounded⟩
  · rintro ⟨numeral, read, bounded⟩
    obtain ⟨left, right, same, leftBlank, rightBlank⟩ := Text.exists_margins value
    exact ⟨left, Text.strip value, right, numeral, same, leftBlank, rightBlank, read, bounded⟩

theorem isSome_quantity?_round (numeral : Numeral) :
    numeral.round.quantity?.isSome ↔ numeral.magnitude < Binary64.overflowBound := by
  rw [← not_le, ← Numeral.units?_eq_none_iff, Numeral.round]
  cases numeral.units? <;> simp [Binary64.ofUnits?, Binary64.quantity?]

theorem isSome_iff_isFinite {value : Text} {quantity : Option Quantity}
    (quantified : quantity? (.text value) = .ok quantity) : quantity.isSome ↔ IsFinite value := by
  rw [isFinite_iff]
  rw [quantity?_text] at quantified
  split at quantified
  next missing =>
    cases quantified
    refine ⟨nofun, fun ⟨numeral, read, _⟩ => ?_⟩
    rw [missing] at read
    cases read
  next numeral read =>
    split at quantified
    · cases quantified
    · cases quantified
      rw [isSome_quantity?_round]
      constructor
      · exact fun bounded => ⟨numeral, read, bounded⟩
      · rintro ⟨found, alsoRead, bounded⟩
        rw [read, Option.some.injEq] at alsoRead
        rwa [alsoRead]

theorem quantityOfInt?_eq_none_iff (number : Int) :
    Binary64.quantityOfInt? number = none ↔ Binary64.overflowBound ≤ number.natAbs := by
  rw [Binary64.quantityOfInt?, Option.map_eq_none_iff, Binary64.units?_eq_none_iff Nat.one_pos,
    Nat.mul_one]

theorem quantity?_fails_iff {value : Value} {fault : Fault} :
    value.quantity? = .error fault ↔
      (∃ number, value = .integer number ∧ Binary64.overflowBound ≤ number.natAbs ∧
        fault = .integerTooLarge) ∨
      ∃ text, value = .text text ∧ IsUnreadable text ∧ fault = .unreadableNumeral text := by
  cases value with
  | integer number => simp [quantity?_integer_eq_error_iff, quantityOfInt?_eq_none_iff]
  | text text => simp [quantity?_eq_error_iff]
  | null | flag | real | other | list | map =>
      rw [show quantity? _ = .ok _ from rfl]
      simp

theorem quantity?_null : quantity? .null = .ok none :=
  rfl

theorem integer_or_quantity?_of_not_writable {value : Value}
    (unwritable : value.isWritable = false) :
    (∃ number, value = .integer number) ∨ value.quantity? = .ok none := by
  cases value with
  | integer number => exact .inl ⟨number, rfl⟩
  | list | map => exact .inr rfl
  | null | flag | real | text | other => cases unwritable

theorem ne_integer_of_quantity? {value : Value} (isNone : value.quantity? = .ok none)
    (number : Int) : value ≠ .integer number := by
  revert isNone
  fun_cases quantity? value with
  | case1 | case2 => rintro ⟨⟩
  | case3 | case4 | case5 | case6 => rintro _ ⟨⟩
  | case7 value notInteger => exact fun _ => notInteger number

end Value

namespace Predicate

variable {predicate : Predicate} {properties : PropertyMap} {eventName actual : Value}
  {fault : Fault}

theorem compareAsText_eq_error_iff :
    predicate.compareAsText actual = .error fault ↔
      actual.isWritable = false ∧ fault = .tooManyDigits := by
  rw [compareAsText]
  cases actual.isWritable <;> simp [eq_comm]

theorem order_eq_error_iff :
    predicate.order actual = .error fault ↔
      (predicate.quantity.isSome ∧ actual.quantity? = .error fault) ∨
      (predicate.quantity.isSome → actual.quantity? = .ok none) ∧
        actual.isWritable = false ∧ fault = .tooManyDigits := by
  rw [order]
  cases predicate.quantity with
  | none => simp [compareAsText_eq_error_iff]
  | some expected =>
      cases actual.quantity? with
      | error other => simp [bind, Except.bind]
      | ok quantity =>
          cases quantity <;>
            simp [bind, Except.bind, pure, Except.pure, compareAsText_eq_error_iff]

theorem testProperties_of_null (found : predicate.subject properties eventName = .ok .null) :
    predicate.testProperties properties eventName = .ok false := by
  rw [testProperties, found]
  rfl

theorem testProperties_of_present (found : predicate.subject properties eventName = .ok actual)
    (present : actual ≠ .null) :
    predicate.testProperties properties eventName =
      (predicate.order actual).map predicate.parts.comparison.holds := by
  rw [testProperties, found]
  cases actual with
  | null => exact absurd rfl present
  | flag | integer | real | text | other | list | map =>
      simp only [bind, Except.bind]
      cases predicate.order _ <;> rfl

theorem testProperties_of_fault (failed : predicate.subject properties eventName = .error fault) :
    predicate.testProperties properties eventName = .error fault := by
  rw [testProperties, failed]
  rfl

theorem testProperties_eq_error_iff :
    predicate.testProperties properties eventName = .error fault ↔
      predicate.subject properties eventName = .error fault ∨
        ∃ actual, predicate.subject properties eventName = .ok actual ∧
          predicate.order actual = .error fault := by
  cases found : predicate.subject properties eventName with
  | error other => simp [testProperties_of_fault found]
  | ok actual =>
      by_cases absent : actual = .null
      · subst absent
        simp [testProperties_of_null found, order_eq_error_iff, Value.quantity?_null,
          Value.isWritable]
      · rw [testProperties_of_present found absent]
        cases ordered : predicate.order actual <;> simp [Except.map, ordered]

/-- When a test of a predicate fails, and with which fault. -/
inductive Raises (predicate : Predicate) (properties : PropertyMap) (eventName : Value) :
    Fault → Prop
  | blocked {key : Key} : predicate.parts.property ≠ eventNameProperty →
      properties.IsBlockedBy predicate.parts.property key →
      Raises predicate properties eventName (.keyWithoutCase key)
  | tooLarge {number : Int} : Value.IsFinite predicate.parts.operand →
      IsSubject properties eventName predicate.parts.property (.integer number) →
      Binary64.overflowBound ≤ number.natAbs →
      Raises predicate properties eventName .integerTooLarge
  | unreadable {value : Text} : Value.IsFinite predicate.parts.operand →
      IsSubject properties eventName predicate.parts.property (.text value) →
      Value.IsUnreadable value →
      Raises predicate properties eventName (.unreadableNumeral value)
  | tooManyDigits {actual : Value} :
      IsSubject properties eventName predicate.parts.property actual →
      actual.isWritable = false →
      (Value.IsFinite predicate.parts.operand → ∀ number, actual ≠ .integer number) →
      Raises predicate properties eventName .tooManyDigits

theorem compares_as_text_iff {finite : Prop} (unwritable : actual.isWritable = false) :
    (finite → actual.quantity? = .ok none) ↔ finite → ∀ number, actual ≠ .integer number := by
  refine forall_congr' fun _ => ⟨?_, fun other => ?_⟩
  · exact Value.ne_integer_of_quantity?
  · refine (Value.integer_or_quantity?_of_not_writable unwritable).resolve_left ?_
    rintro ⟨number, same⟩
    exact other number same

theorem testProperties_eq_error_iff_raises {text : Text} (built : build text = .ok predicate) :
    predicate.testProperties properties eventName = .error fault ↔
      predicate.Raises properties eventName fault := by
  have numeric : predicate.quantity.isSome ↔ Value.IsFinite predicate.parts.operand :=
    Value.isSome_iff_isFinite (parts_and_quantity_of_build built).2
  rw [testProperties_eq_error_iff]
  simp only [subject_eq_error_iff, subject_eq_ok_iff, order_eq_error_iff, numeric,
    Value.quantity?_fails_iff]
  constructor
  · rintro (⟨other, key, rfl, blocked⟩ | ⟨actual, isSubject, ⟨finite, failed⟩ | textual⟩)
    · exact .blocked other blocked
    · rcases failed with ⟨number, rfl, large, rfl⟩ | ⟨value, rfl, unreadable, rfl⟩
      · exact .tooLarge finite isSubject large
      · exact .unreadable finite isSubject unreadable
    · obtain ⟨asText, unwritable, rfl⟩ := textual
      exact .tooManyDigits isSubject unwritable ((compares_as_text_iff unwritable).mp asText)
  · rintro (⟨other, blocked⟩ | ⟨finite, isSubject, large⟩ | ⟨finite, isSubject, unreadable⟩ |
      ⟨isSubject, unwritable, textual⟩)
    · exact .inl ⟨other, _, rfl, blocked⟩
    · exact .inr ⟨_, isSubject, .inl ⟨finite, .inl ⟨_, rfl, large, rfl⟩⟩⟩
    · exact .inr ⟨_, isSubject, .inl ⟨finite, .inr ⟨_, rfl, unreadable, rfl⟩⟩⟩
    · exact .inr ⟨_, isSubject, .inr ⟨(compares_as_text_iff unwritable).mpr textual, unwritable,
        rfl⟩⟩

/-- A test fails in three cases only, apart from integers with too many digits that are compared as
text: a key that is no text stops the search for the name, or the value of the predicate is a finite
number and the value under the name is an integer that rounds to no number, or a numeral with an
information separator in its margins. -/
theorem testProperties_fails_iff {text : Text} {predicate : Predicate}
    (built : build text = .ok predicate) (properties : PropertyMap) (eventName : Value) :
    (∀ key, predicate.testProperties properties eventName = .error (.keyWithoutCase key) ↔
      predicate.parts.property ≠ eventNameProperty ∧
        properties.IsBlockedBy predicate.parts.property key) ∧
    (predicate.testProperties properties eventName = .error .integerTooLarge ↔
      Value.IsFinite predicate.parts.operand ∧
        ∃ number, IsSubject properties eventName predicate.parts.property (.integer number) ∧
          Binary64.overflowBound ≤ number.natAbs) ∧
    (∀ value, predicate.testProperties properties eventName = .error (.unreadableNumeral value) ↔
      Value.IsFinite predicate.parts.operand ∧
        IsSubject properties eventName predicate.parts.property (.text value) ∧
        Value.IsUnreadable value) ∧
    (predicate.testProperties properties eventName = .error .tooManyDigits ↔
      ∃ actual, IsSubject properties eventName predicate.parts.property actual ∧
        actual.isWritable = false ∧
        (Value.IsFinite predicate.parts.operand → ∀ number, actual ≠ .integer number)) ∧
    ((∃ answer, predicate.testProperties properties eventName = .ok answer) ↔
      ¬∃ fault, predicate.Raises properties eventName fault) := by
  refine ⟨fun key => ?_, ?_, fun value => ?_, ?_, ?_⟩
  · rw [testProperties_eq_error_iff_raises built]
    exact ⟨fun | .blocked other blocked => ⟨other, blocked⟩,
      fun ⟨other, blocked⟩ => .blocked other blocked⟩
  · rw [testProperties_eq_error_iff_raises built]
    exact ⟨fun | .tooLarge finite isSubject large => ⟨finite, _, isSubject, large⟩,
      fun ⟨finite, _, isSubject, large⟩ => .tooLarge finite isSubject large⟩
  · rw [testProperties_eq_error_iff_raises built]
    exact ⟨fun | .unreadable finite isSubject unreadable => ⟨finite, isSubject, unreadable⟩,
      fun ⟨finite, isSubject, unreadable⟩ => .unreadable finite isSubject unreadable⟩
  · rw [testProperties_eq_error_iff_raises built]
    exact ⟨fun | .tooManyDigits isSubject unwritable textual => ⟨_, isSubject, unwritable, textual⟩,
      fun ⟨_, isSubject, unwritable, textual⟩ => .tooManyDigits isSubject unwritable textual⟩
  · simp only [← testProperties_eq_error_iff_raises built]
    cases predicate.testProperties properties eventName <;> simp

theorem testProperties_fails_iff_at_bound :
    ∃ predicate, build "A>=5".toList = .ok predicate ∧
      predicate.testProperties [(.text ['A'], .integer Binary64.overflowBound)] .null =
        .error .integerTooLarge ∧
      (∃ answer, predicate.testProperties
        [(.text ['a'], .integer (Binary64.overflowBound - 1 : Nat)), (.null, .null)] .null =
          .ok answer) ∧
      predicate.testProperties [(.text ['A'], .text ['\x1c', '7'])] .null =
        .error (.unreadableNumeral ['\x1c', '7']) ∧
      predicate.testProperties [(.null, .null), (.text ['a'], .integer 7)] .null =
        .error (.keyWithoutCase .null) := by
  let predicate : Predicate := ⟨"A>=5".toList, ⟨['A'], .atLeast, ['5']⟩,
    some ⟨(5 * Binary64.unitsOfOne : Nat)⟩⟩
  have built : build "A>=5".toList = .ok predicate := by decide +kernel
  have boundPositive : 5 < Binary64.overflowBound := by decide +kernel
  have finite : Value.IsFinite ['5'] := by
    refine ⟨[], ['5'], [], ⟨false, 5, 0⟩, rfl, rfl, rfl, rfl, ?_⟩
    rw [Numeral.magnitude, zpow_zero, mul_one]
    exact Nat.cast_lt.mpr boundPositive
  have other : ['A'] ≠ eventNameProperty := by decide
  have holds (value : Value) : IsSubject [(.text ['A'], value)] .null ['A'] value :=
    .property other (.exactly (List.nil_append _).symm (List.forall_mem_nil _))
  refine ⟨predicate, built, ?_, ?_, ?_, ?_⟩
  · exact (testProperties_fails_iff built _ _).2.1.mpr ⟨finite, _, holds _, le_rfl⟩
  · have found : predicate.subject
        [(.text ['a'], .integer (Binary64.overflowBound - 1 : Nat)), (.null, .null)] .null =
          .ok (.integer (Binary64.overflowBound - 1 : Nat)) := rfl
    refine (testProperties_fails_iff built _ _).2.2.2.2.mpr ?_
    rintro ⟨fault, raises⟩
    cases raises with
    | blocked other blocked =>
        have failed : predicate.subject _ .null = _ :=
          subject_eq_error_iff.mpr ⟨other, _, rfl, blocked⟩
        rw [found] at failed
        cases failed
    | tooLarge _ isSubject large =>
        rw [← subject_eq_ok_iff, found, Except.ok.injEq, Value.integer.injEq] at isSubject
        omega
    | unreadable _ isSubject _ =>
        rw [← subject_eq_ok_iff, found] at isSubject
        cases isSubject
    | tooManyDigits isSubject _ textual =>
        rw [← subject_eq_ok_iff, found, Except.ok.injEq] at isSubject
        exact textual finite _ isSubject.symm
  · refine ((testProperties_fails_iff built _ _).2.2.1 _).mpr ⟨finite, holds _, ?_⟩
    exact ⟨['\x1c'], ['7'], [], rfl, rfl, rfl, rfl, rfl⟩
  · have blocked : PropertyMap.IsBlockedBy [(.null, .null), (.text ['a'], .integer 7)] ['A']
        .null :=
      ⟨by simp [PropertyMap.Lacks], by simp, [], _, _, rfl, List.forall_mem_nil _⟩
    exact ((testProperties_fails_iff built _ _).1 _).mpr ⟨other, blocked⟩

end Predicate

end EventFilter
