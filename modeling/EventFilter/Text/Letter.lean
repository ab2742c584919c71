import EventFilter.Text.Basic

/-!
ASCII letters and digits by their codes.
-/

namespace EventFilter.Text

theorem isUpper_iff (letter : Char) :
    letter.isUpper = true ↔ 65 ≤ letter.toNat ∧ letter.toNat ≤ 90 := by
  change decide (65 ≤ letter.val ∧ letter.val ≤ 90) = true ↔ _
  rw [decide_eq_true_iff, UInt32.le_iff_toNat_le, UInt32.le_iff_toNat_le]
  rfl

theorem isLower_iff (letter : Char) :
    letter.isLower = true ↔ 97 ≤ letter.toNat ∧ letter.toNat ≤ 122 := by
  change (decide (97 ≤ letter.val) && decide (letter.val ≤ 122)) = true ↔ _
  rw [Bool.and_eq_true, decide_eq_true_iff, decide_eq_true_iff, UInt32.le_iff_toNat_le,
    UInt32.le_iff_toNat_le]
  rfl

theorem isDigit_iff (digit : Char) :
    digit.isDigit = true ↔ 48 ≤ digit.toNat ∧ digit.toNat ≤ 57 := by
  change (decide (48 ≤ digit.val) && decide (digit.val ≤ 57)) = true ↔ _
  rw [Bool.and_eq_true, decide_eq_true_iff, decide_eq_true_iff, UInt32.le_iff_toNat_le,
    UInt32.le_iff_toNat_le]
  rfl

theorem isAlpha_iff (letter : Char) :
    letter.isAlpha = true ↔ letter.isUpper = true ∨ letter.isLower = true := by
  change (letter.isUpper || letter.isLower) = true ↔ _
  rw [Bool.or_eq_true]

theorem isAlphanum_iff (character : Char) :
    character.isAlphanum = true ↔ character.isAlpha = true ∨ character.isDigit = true := by
  change (character.isAlpha || character.isDigit) = true ↔ _
  rw [Bool.or_eq_true]

theorem isAlpha_of_toLower {letter : Char} (lower : letter.toLower.isAlpha = true) :
    letter.isAlpha = true := by
  by_cases upper : letter.isUpper = true
  · exact (isAlpha_iff letter).mpr (.inl upper)
  · have same : letter.toLower = letter := by
      have outside : ¬(65 ≤ letter.val ∧ letter.val ≤ 90) := by
        intro inside
        apply upper
        change decide (65 ≤ letter.val ∧ letter.val ≤ 90) = true
        exact decide_eq_true inside
      exact dif_neg outside
    rwa [same] at lower

end EventFilter.Text
