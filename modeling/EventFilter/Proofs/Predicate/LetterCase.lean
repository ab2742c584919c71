import EventFilter.Proofs.Number.CaseFolding
import EventFilter.Proofs.Predicate.Testing

/-!
Letter case in the values of predicates and properties.

Whether a value is a number is decided on the text as it stands, and texts are compared after
folding. Values that fold alike are the same number, or both none, so the two never get in each
other's way.
-/

namespace EventFilter

/-- Two results of reading two texts, which are related, or are the fault that each text cannot be
read. -/
inductive ReadAlike {Result : Type} (related : Result → Result → Prop) (left right : Text) :
    Except Fault Result → Except Fault Result → Prop
  | read {first second : Result} : related first second →
      ReadAlike related left right (.ok first) (.ok second)
  | unreadable : ReadAlike related left right (.error (.unreadableNumeral left))
      (.error (.unreadableNumeral right))

open Text (foldCase)

variable {left right : Text}

theorem ReadAlike.exists_of_ok {Result : Type} {related : Result → Result → Prop}
    {first : Result} {read : Except Fault Result}
    (alike : ReadAlike related left right (.ok first) read) :
    ∃ second, read = .ok second ∧ related first second := by
  cases alike with
  | read isRelated => exact ⟨_, rfl, isRelated⟩

theorem Numeral.read?_strip_of_foldCase_eq (folded : foldCase left = foldCase right) :
    read? (Text.strip left) = read? (Text.strip right) := by
  have blank := Text.ignoresCase_isBlank
  rw [← read?_foldCase, Text.strip, ← Text.stripWhere_foldCase blank, folded,
    Text.stripWhere_foldCase blank, read?_foldCase, Text.strip]

theorem Value.readAlike_quantity? (folded : foldCase left = foldCase right) :
    ReadAlike Eq left right (quantity? (.text left)) (quantity? (.text right)) := by
  have separated : Text.IgnoresCase Text.isInformationSeparator :=
    Text.ignoresCase_of_isCaseless fun _ separates =>
      Text.isCaseless_of_isBlank (Text.isBlank_of_isInformationSeparator separates)
  have sameSeparators : left.any Text.isInformationSeparator =
      right.any Text.isInformationSeparator := by
    rw [← Text.any_foldCase separated, folded, Text.any_foldCase separated]
  rw [quantity?_text, quantity?_text, Numeral.read?_strip_of_foldCase_eq folded, sameSeparators]
  split
  next => exact .read rfl
  next =>
    split
    next => exact .unreadable
    next => exact .read rfl

namespace Predicate

open PredicateParts (Frame)

variable {predicate other : Predicate}

theorem readAlike_order (sameQuantity : predicate.quantity = other.quantity)
    (sameOperand : foldCase predicate.parts.operand = foldCase other.parts.operand)
    (folded : foldCase left = foldCase right) :
    ReadAlike Eq left right (predicate.order (.text left)) (other.order (.text right)) := by
  have sameOrder : compare (foldCase left) (foldCase predicate.parts.operand) =
      compare (foldCase right) (foldCase other.parts.operand) := by
    rw [sameOperand, folded]
  have asText : ReadAlike Eq left right (predicate.compareAsText (.text left))
      (other.compareAsText (.text right)) := .read sameOrder
  rw [order, order, ← sameQuantity]
  cases predicate.quantity with
  | none => exact asText
  | some expected =>
      have alike := Value.readAlike_quantity? folded
      generalize Value.quantity? (.text left) = leftRead at alike
      generalize Value.quantity? (.text right) = rightRead at alike
      cases alike with
      | unreadable => exact .unreadable
      | @read quantity _ same =>
          subst same
          cases quantity with
          | none => exact asText
          | some actual => exact .read rfl

theorem readAlike_testProperties {properties otherProperties : PropertyMap}
    {eventName otherEventName : Value} (sameQuantity : predicate.quantity = other.quantity)
    (sameOperand : foldCase predicate.parts.operand = foldCase other.parts.operand)
    (sameComparison : predicate.parts.comparison = other.parts.comparison)
    (folded : foldCase left = foldCase right)
    (isLeft : IsSubject properties eventName predicate.parts.property (.text left))
    (isRight : IsSubject otherProperties otherEventName other.parts.property (.text right)) :
    ReadAlike Eq left right (predicate.testProperties properties eventName)
      (other.testProperties otherProperties otherEventName) := by
  have alike := readAlike_order sameQuantity sameOperand folded
  rw [testProperties_of_present (subject_eq_ok_iff.mpr isLeft) nofun,
    testProperties_of_present (subject_eq_ok_iff.mpr isRight) nofun, sameComparison]
  generalize predicate.order (.text left) = leftOrder at alike ⊢
  generalize other.order (.text right) = rightOrder at alike ⊢
  cases alike with
  | unreadable => exact .unreadable
  | read same => exact .read (congrArg other.parts.comparison.holds same)

/-- Predicates whose values differ in letter case are built alike, from the same number or from
none, and answer alike on values that differ in letter case. -/
theorem readAlike_of_foldCase_eq (frame : Frame) (comparison : Comparison) {value other : Text}
    (unquoted : '"' ∉ value) (otherUnquoted : '"' ∉ other)
    (folded : foldCase value = foldCase other) {actual otherActual : Text}
    (actualFolded : foldCase actual = foldCase otherActual) :
    ReadAlike
      (fun predicate otherPredicate => predicate.quantity = otherPredicate.quantity ∧
        ∀ (properties otherProperties : PropertyMap) (eventName otherEventName : Value),
          IsSubject properties eventName frame.name (.text actual) →
          IsSubject otherProperties otherEventName frame.name (.text otherActual) →
          ReadAlike Eq actual otherActual (predicate.testProperties properties eventName)
            (otherPredicate.testProperties otherProperties otherEventName))
      value other (build (frame.text comparison value)) (build (frame.text comparison other)) ∧
    ReadAlike Eq value other (Value.quantity? (.text value)) (Value.quantity? (.text other)) ∧
    ReadAlike Eq actual otherActual (Value.quantity? (.text actual))
      (Value.quantity? (.text otherActual)) := by
  have alike := Value.readAlike_quantity? folded
  refine ⟨?_, alike, Value.readAlike_quantity? actualFolded⟩
  rw [build_frame frame comparison unquoted, build_frame frame comparison otherUnquoted]
  generalize Value.quantity? (.text value) = read at alike ⊢
  generalize Value.quantity? (.text other) = otherRead at alike ⊢
  cases alike with
  | unreadable => exact .unreadable
  | @read quantity _ same =>
      subst same
      have sameOperand : foldCase (ofFrame frame value quantity comparison).parts.operand =
          foldCase (ofFrame frame other quantity comparison).parts.operand := folded
      exact .read ⟨rfl, fun properties otherProperties eventName otherEventName isLeft isRight =>
        readAlike_testProperties rfl sameOperand rfl actualFolded isLeft isRight⟩

theorem readAlike_of_foldCase_eq_marks_and_letters :
    (∃ predicate other, build "a==\"1E3\"".toList = .ok predicate ∧
      build "a==\"1e3\"".toList = .ok other ∧ predicate.quantity = other.quantity ∧
      predicate.testProperties [(.text ['a'], .text "1.0E3 ".toList)] .null = .ok true ∧
      other.testProperties [(.text ['A'], .text "1.0e3 ".toList)] .null = .ok true) ∧
    ∃ predicate other, build "EventName==\"Straße\"".toList = .ok predicate ∧
      build "EventName==\"STRASSE\"".toList = .ok other ∧ predicate.quantity = other.quantity ∧
      predicate.testProperties [] (.text "STRAẞE".toList) = .ok true ∧
      other.testProperties [] (.text "strasse".toList) = .ok true := by
  constructor
  · let frame : Frame := ⟨['a'], [], [], ⟨'a', [], rfl, rfl, rfl⟩, rfl, rfl⟩
    let predicate := ofFrame frame "1E3".toList (some ⟨(1000 * Binary64.unitsOfOne : Nat)⟩) .equal
    have built : build (frame.text .equal "1E3".toList) = .ok predicate := by decide +kernel
    have folded : foldCase "1E3".toList = foldCase "1e3".toList := by decide +kernel
    have actualFolded : foldCase "1.0E3 ".toList = foldCase "1.0e3 ".toList := by decide +kernel
    have alike := (readAlike_of_foldCase_eq frame .equal (by decide) (by decide) folded
      actualFolded).1
    rw [built] at alike
    obtain ⟨other, otherBuilt, sameQuantity, answers⟩ := alike.exists_of_ok
    have tested : predicate.testProperties [(.text ['a'], .text "1.0E3 ".toList)] .null =
        .ok true := by
      decide +kernel
    have exact : IsSubject [(.text ['a'], .text "1.0E3 ".toList)] .null ['a']
        (.text "1.0E3 ".toList) :=
      .property (by decide) (.exactly (List.nil_append _).symm nofun)
    have searched : IsSubject [(.text ['A'], .text "1.0e3 ".toList)] .null ['a']
        (.text "1.0e3 ".toList) :=
      .property (by decide) (.folded (by simp [PropertyMap.Lacks]) (List.nil_append _).symm
        (by decide) nofun)
    have answer := answers _ _ _ _ exact searched
    rw [tested] at answer
    obtain ⟨_, otherTested, rfl⟩ := answer.exists_of_ok
    exact ⟨predicate, other, built, otherBuilt, sameQuantity, tested, otherTested⟩
  · let frame : Frame := ⟨eventNameProperty, [], [], ⟨'E', "ventName".toList, rfl, rfl, rfl⟩, rfl,
      rfl⟩
    let predicate := ofFrame frame "Straße".toList none .equal
    have built : build (frame.text .equal "Straße".toList) = .ok predicate := by decide +kernel
    have folded : foldCase "Straße".toList = foldCase "STRASSE".toList := by decide +kernel
    have actualFolded : foldCase "STRAẞE".toList = foldCase "strasse".toList := by decide +kernel
    have alike := (readAlike_of_foldCase_eq frame .equal (by decide) (by decide) folded
      actualFolded).1
    rw [built] at alike
    obtain ⟨other, otherBuilt, sameQuantity, answers⟩ := alike.exists_of_ok
    have tested : predicate.testProperties [] (.text "STRAẞE".toList) = .ok true := by
      decide +kernel
    have answer := answers [] [] _ _ .eventName .eventName
    rw [tested] at answer
    obtain ⟨_, otherTested, rfl⟩ := answer.exists_of_ok
    exact ⟨predicate, other, built, otherBuilt, sameQuantity, tested, otherTested⟩

end Predicate

end EventFilter
