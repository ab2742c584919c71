import EventFilter.Number.Numeral
import EventFilter.Proofs.Text.CaseFolding

/-!
Case folding of numerals.

Nothing that a numeral consists of has letter case, except the mark of its exponent, which may be
in either. Each step of the reading goes the same way for a text and for its folded form.
-/

namespace EventFilter.Numeral

open Text (exists_foldCase_cons foldCase foldCase_cons foldCase_cons_of_isCaseless foldCharacter
  isCaseless)

theorem isMarkOfExponent_iff {character : Char} :
    isMarkOfExponent character = true ↔ character = 'e' ∨ character = 'E' := by
  rw [isMarkOfExponent, Bool.or_eq_true, beq_iff_eq, beq_iff_eq]

theorem foldCharacter_of_isMark {mark : Char} (isMark : isMarkOfExponent mark = true) :
    foldCharacter mark = ['e'] := by
  rcases isMarkOfExponent_iff.mp isMark with rfl | rfl <;> decide +kernel

theorem capitals_of_shifted : (Text.caseRuns.all fun run =>
    (run.first == 'A'.toNat && run.shift == 32) ||
      ['e'.toNat, 'E'.toNat].all fun mark => Text.areApart run.images (mark, mark)) = true := by
  decide +kernel

theorem not_isMark_of_expanded : ∀ expansion ∈ Text.caseExpansions, ∀ code ∈ expansion.2,
    isMarkOfExponent (Char.ofNat code) = false := by
  decide +kernel

theorem isMark_of_mem_foldCharacter {character image : Char}
    (inside : image ∈ foldCharacter character) (isMark : isMarkOfExponent image = true) :
    isMarkOfExponent character = true := by
  have folds := Text.foldsTo_foldCharacter character
  generalize foldCharacter character = images at folds inside
  cases folds with
  | itself => rwa [← List.mem_singleton.mp inside]
  | @shifted run member lower upper =>
      have mark : image.toNat = 'e'.toNat ∨ image.toNat = 'E'.toNat :=
        (isMarkOfExponent_iff.mp isMark).imp (congrArg Char.toNat) (congrArg Char.toNat)
      have code : image.toNat = (character.toNat + run.shift).toNat := by
        rw [List.mem_singleton.mp inside] at mark ⊢
        exact Text.toNat_ofNat (by rcases mark with same | same <;> rw [same] <;> decide)
      have table := List.all_eq_true.mp capitals_of_shifted run member
      simp only [Bool.or_eq_true, Bool.and_eq_true, beq_iff_eq, List.all_cons, List.all_nil,
        and_true, Text.areApart, Nat.blt_eq, Text.CaseRun.images] at table
      have codes : 'A'.toNat = 65 ∧ 'E'.toNat = 69 ∧ 'e'.toNat = 101 := ⟨rfl, rfl, rfl⟩
      have same : character = 'E' := Char.toNat_inj.mp (by omega)
      rw [same]
      rfl
  | expanded member =>
      obtain ⟨code, isImage, rfl⟩ := List.mem_map.mp inside
      rw [not_isMark_of_expanded _ member code isImage] at isMark
      cases isMark

theorem not_mem_of_mem_foldCharacter {character image : Char} {marks : List Char}
    (caseless : marks.all isCaseless) (inside : image ∈ foldCharacter character)
    (other : character ∉ marks) : image ∉ marks := by
  intro isMark
  rw [Text.eq_of_mem_foldCharacter inside (List.all_eq_true.mp caseless image isMark)] at isMark
  exact other isMark

theorem splitSign_of_unsigned {first : Char} (unsigned : first ∉ ['-', '+']) (rest : Text) :
    splitSign (first :: rest) = (false, first :: rest) := by
  unfold splitSign
  split
  next same => simp [(List.cons.inj same).1] at unsigned
  next same => simp [(List.cons.inj same).1] at unsigned
  next => rfl

theorem splitSign_foldCase (text : Text) :
    splitSign (foldCase text) = ((splitSign text).1, foldCase (splitSign text).2) := by
  cases text with
  | nil => rfl
  | cons first rest =>
      by_cases signed : first ∈ ['-', '+']
      · simp only [List.mem_cons, List.not_mem_nil, or_false] at signed
        rcases signed with rfl | rfl <;> rw [foldCase_cons_of_isCaseless (by decide)] <;> rfl
      · obtain ⟨image, inside, images, folded⟩ := exists_foldCase_cons first rest
        have unsigned := not_mem_of_mem_foldCharacter (by decide) inside signed
        rw [splitSign_of_unsigned signed, folded, splitSign_of_unsigned unsigned]

theorem splitDigits_foldCase (text : Text) :
    splitDigits (foldCase text) = ((splitDigits text).1, foldCase (splitDigits text).2) := by
  have taken := Text.takeWhile_flatMap Text.foldCharacter_ne_nil Text.ignoresCase_isDigit text
  have left := Text.dropWhile_flatMap Text.foldCharacter_ne_nil Text.ignoresCase_isDigit text
  rw [splitDigits, foldCase, taken, left, ← foldCase, Text.foldCase_of_isDigit List.all_takeWhile]
  rfl

theorem splitFraction_of_ne {first : Char} (other : first ∉ ['.']) (rest : Text) :
    splitFraction (first :: rest) = ([], first :: rest) := by
  unfold splitFraction
  split
  next same => simp [(List.cons.inj same).1] at other
  next => rfl

theorem splitFraction_foldCase (text : Text) :
    splitFraction (foldCase text) = ((splitFraction text).1, foldCase (splitFraction text).2) := by
  cases text with
  | nil => rfl
  | cons first rest =>
      by_cases point : first ∈ ['.']
      · obtain rfl := List.mem_singleton.mp point
        rw [foldCase_cons_of_isCaseless (by decide)]
        exact splitDigits_foldCase rest
      · obtain ⟨image, inside, images, folded⟩ := exists_foldCase_cons first rest
        have other := not_mem_of_mem_foldCharacter (by decide) inside point
        rw [splitFraction_of_ne point, folded, splitFraction_of_ne other]

theorem exponent?_of_not_isMark {first : Char} (other : ¬isMarkOfExponent first = true)
    (rest : Text) : exponent? (first :: rest) = none := by
  simp [exponent?, other]

theorem exponent?_foldCase (text : Text) : exponent? (foldCase text) = exponent? text := by
  cases text with
  | nil => rfl
  | cons mark rest =>
      by_cases isMark : isMarkOfExponent mark = true
      · have small : isMarkOfExponent 'e' = true := rfl
        rw [foldCase_cons, foldCharacter_of_isMark isMark, List.singleton_append, exponent?,
          exponent?, splitSign_foldCase, isMark, small]
        dsimp only
        by_cases digits : (splitSign rest).2.all Text.isDigit = true
        · rw [Text.foldCase_of_isDigit digits]
        · rw [Text.all_foldCase Text.ignoresCase_isDigit, Bool.eq_false_iff.mpr digits,
            Bool.and_false, Bool.and_false]
          rfl
      · obtain ⟨image, inside, images, folded⟩ := exists_foldCase_cons mark rest
        have other : ¬isMarkOfExponent image = true :=
          mt (isMark_of_mem_foldCharacter inside) isMark
        rw [exponent?_of_not_isMark isMark, folded, exponent?_of_not_isMark other]

/-- Folding neither makes a numeral of another text nor changes the value of one. -/
theorem read?_foldCase (text : Text) : read? (foldCase text) = read? text := by
  rw [read?, splitSign_foldCase]
  simp only [splitDigits_foldCase, splitFraction_foldCase, exponent?_foldCase]
  rfl

end EventFilter.Numeral
