import EventFilter.Text.CaseFolding
import EventFilter.Text.DecimalDigit
import EventFilter.Text.Stops

/-!
What case folding leaves alone.

White space, digits, signs and points have no letter case: they fold to themselves, and no other
character folds to one of them. So a folded text begins, ends and can be divided at them as the
text itself.
-/

namespace EventFilter.Text

/-- The ways in which a character folds. -/
inductive FoldsTo (character : Char) : Text → Prop
  | itself : FoldsTo character [character]
  | shifted {run : CaseRun} : run ∈ caseRuns → run.first ≤ character.toNat →
      character.toNat ≤ run.last →
      FoldsTo character [Char.ofNat (character.toNat + run.shift).toNat]
  | expanded {codes : List Nat} : (character.toNat, codes) ∈ caseExpansions →
      FoldsTo character (codes.map Char.ofNat)

theorem foldsTo_foldCharacter (character : Char) : FoldsTo character (foldCharacter character) := by
  unfold foldCharacter
  split
  next run found =>
    have covered := List.find?_some found
    simp only [CaseRun.covers, Bool.and_eq_true, decide_eq_true_eq] at covered
    exact .shifted (List.mem_of_find?_eq_some found) covered.1.1 covered.1.2
  next =>
    split
    next codes found =>
      obtain ⟨before, after, same, _⟩ := List.lookup_eq_some_iff.mp found
      refine .expanded ?_
      rw [same]
      exact List.mem_append_right before List.mem_cons_self
    next => exact .itself

theorem foldCharacter_ne_nil (character : Char) : foldCharacter character ≠ [] := by
  have present : ∀ expansion ∈ caseExpansions, expansion.2 ≠ [] := by decide
  have folds := foldsTo_foldCharacter character
  generalize foldCharacter character = images at folds ⊢
  cases folds with
  | itself => exact List.cons_ne_nil _ _
  | shifted => exact List.cons_ne_nil _ _
  | expanded found => exact mt List.map_eq_nil_iff.mp (present _ found)

theorem inRanges_eq_true_iff {ranges : List (Nat × Nat)} {code : Nat} :
    inRanges ranges code = true ↔ ∃ range ∈ ranges, range.1 ≤ code ∧ code ≤ range.2 := by
  simp [inRanges]

def CaseRun.sources (run : CaseRun) : Nat × Nat :=
  (run.first, run.last)

def CaseRun.images (run : CaseRun) : Nat × Nat :=
  ((run.first + run.shift).toNat, (run.last + run.shift).toNat)

/-- Stretches that contain all codes that fold to others, and all codes that others fold to. -/
def caseRanges : List (Nat × Nat) :=
  caseRuns.map CaseRun.sources ++ caseRuns.map CaseRun.images ++
    (caseExpansions.flatMap fun expansion => expansion.1 :: expansion.2).map fun code =>
      (code, code)

theorem sources_mem_caseRanges {run : CaseRun} (member : run ∈ caseRuns) :
    run.sources ∈ caseRanges :=
  List.mem_append_left _ (List.mem_append_left _ (List.mem_map_of_mem member))

theorem images_mem_caseRanges {run : CaseRun} (member : run ∈ caseRuns) :
    run.images ∈ caseRanges :=
  List.mem_append_left _ (List.mem_append_right _ (List.mem_map_of_mem member))

theorem mem_caseRanges_of_expansion {expansion : Nat × List Nat}
    (member : expansion ∈ caseExpansions) {code : Nat}
    (inside : code ∈ expansion.1 :: expansion.2) : (code, code) ∈ caseRanges :=
  List.mem_append_right _ (List.mem_map_of_mem (List.mem_flatMap.mpr ⟨_, member, inside⟩))

def caselessRanges : List (Nat × Nat) :=
  blankRanges ++ digitZeros.map (fun least => (least, least + 9)) ++ [('+'.toNat, '.'.toNat)]

def areApart (left right : Nat × Nat) : Bool :=
  left.2.blt right.1 || right.2.blt left.1

theorem areApart_of_cased :
    (caseRanges.all fun cased => caselessRanges.all (areApart cased)) = true := by
  decide +kernel

theorem inRanges_caseless_of_cased {cased : Nat × Nat} (member : cased ∈ caseRanges) {code : Nat}
    (lower : cased.1 ≤ code) (upper : code ≤ cased.2) : inRanges caselessRanges code = false := by
  rw [Bool.eq_false_iff, ne_eq, inRanges_eq_true_iff]
  rintro ⟨caseless, alsoMember, alsoLower, alsoUpper⟩
  have apart := List.all_eq_true.mp (List.all_eq_true.mp areApart_of_cased cased member) caseless
    alsoMember
  rw [areApart, Bool.or_eq_true, Nat.blt_eq, Nat.blt_eq] at apart
  omega

def isCaseless (character : Char) : Bool :=
  inRanges caselessRanges character.toNat

variable {character image : Char}

theorem toNat_ofNat {code : Nat} (present : (Char.ofNat code).toNat ≠ 0) :
    (Char.ofNat code).toNat = code := by
  by_cases valid : code.isValidChar
  · have same : Char.ofNat code = Char.ofNatAux code valid := dif_pos valid
    rw [same]
    rfl
  · rw [Char.ofNat, dif_neg valid] at present
    exact absurd rfl present

theorem inRanges_of_isCaseless_ofNat {code : Nat} (caseless : isCaseless (Char.ofNat code) = true) :
    inRanges caselessRanges code = true := by
  have present : (Char.ofNat code).toNat ≠ 0 := by
    intro none
    rw [isCaseless, none] at caseless
    cases caseless
  rwa [isCaseless, toNat_ofNat present] at caseless

theorem foldCharacter_of_isCaseless (caseless : isCaseless character = true) :
    foldCharacter character = [character] := by
  have folds := foldsTo_foldCharacter character
  rw [isCaseless] at caseless
  generalize foldCharacter character = images at folds ⊢
  cases folds with
  | itself => rfl
  | @shifted run member lower upper =>
      rw [inRanges_caseless_of_cased (sources_mem_caseRanges member) lower upper] at caseless
      cases caseless
  | expanded member =>
      have cased := mem_caseRanges_of_expansion member List.mem_cons_self
      rw [inRanges_caseless_of_cased cased (Nat.le_refl _) (Nat.le_refl _)] at caseless
      cases caseless

theorem eq_of_mem_foldCharacter (inside : image ∈ foldCharacter character)
    (caseless : isCaseless image = true) : image = character := by
  have folds := foldsTo_foldCharacter character
  generalize foldCharacter character = images at folds inside
  cases folds with
  | itself => exact List.mem_singleton.mp inside
  | @shifted run member lower upper =>
      rw [List.mem_singleton.mp inside] at caseless
      have least : (run.first + run.shift : Int) ≤ character.toNat + run.shift := by omega
      have greatest : (character.toNat + run.shift : Int) ≤ run.last + run.shift := by omega
      have outside := inRanges_caseless_of_cased (images_mem_caseRanges member)
        (Int.toNat_le_toNat least) (Int.toNat_le_toNat greatest)
      rw [inRanges_of_isCaseless_ofNat caseless] at outside
      cases outside
  | expanded member =>
      obtain ⟨code, isImage, rfl⟩ := List.mem_map.mp inside
      have cased := mem_caseRanges_of_expansion member (List.mem_cons_of_mem _ isImage)
      have outside := inRanges_caseless_of_cased cased (Nat.le_refl code) (Nat.le_refl code)
      rw [inRanges_of_isCaseless_ofNat caseless] at outside
      cases outside

def IgnoresCase (isTaken : Char → Bool) : Prop :=
  ∀ character, ∀ image ∈ foldCharacter character, isTaken image = isTaken character

theorem ignoresCase_of_isCaseless {isTaken : Char → Bool}
    (caseless : ∀ character, isTaken character = true → isCaseless character = true) :
    IgnoresCase isTaken := by
  intro character image inside
  rw [Bool.eq_iff_iff]
  constructor
  · intro taken
    rwa [← eq_of_mem_foldCharacter inside (caseless image taken)]
  · intro taken
    rw [foldCharacter_of_isCaseless (caseless character taken), List.mem_singleton] at inside
    rwa [inside]

theorem isCaseless_of_isBlank (blank : isBlank character = true) :
    isCaseless character = true := by
  rw [isBlank, inRanges_eq_true_iff] at blank
  obtain ⟨range, member, inside⟩ := blank
  exact inRanges_eq_true_iff.mpr
    ⟨range, List.mem_append_left _ (List.mem_append_left _ member), inside⟩

theorem isCaseless_of_isDigit (digit : isDigit character = true) :
    isCaseless character = true := by
  obtain ⟨least, member, inside⟩ := exists_least_of_isDigit digit
  exact inRanges_eq_true_iff.mpr ⟨(least, least + 9), List.mem_append_left _
    (List.mem_append_right _ (List.mem_map_of_mem member)), inside⟩

theorem ignoresCase_isBlank : IgnoresCase isBlank :=
  ignoresCase_of_isCaseless fun _ => isCaseless_of_isBlank

theorem ignoresCase_isDigit : IgnoresCase isDigit :=
  ignoresCase_of_isCaseless fun _ => isCaseless_of_isDigit

section Images

variable {images : Char → Text} {isTaken : Char → Bool}
  (present : ∀ character, images character ≠ [])
  (alike : ∀ character, ∀ image ∈ images character, isTaken image = isTaken character)
include present alike

theorem stops_images {character : Char} (other : ¬isTaken character = true) (following : Text) :
    Stops isTaken (images character ++ following) := by
  refine stops_append (present character) (fun next first => ?_) following
  rw [alike character next (List.mem_of_head? first)]
  exact Bool.eq_false_iff.mpr other

theorem takeWhile_flatMap (text : Text) :
    (text.flatMap images).takeWhile isTaken = (text.takeWhile isTaken).flatMap images := by
  induction text with
  | nil => rfl
  | cons first rest ih =>
      rw [List.flatMap_cons]
      by_cases taken : isTaken first = true
      · have all : ∀ image ∈ images first, isTaken image = true := fun image inside =>
          (alike first image inside).trans taken
        rw [List.takeWhile_append_of_pos all, ih, List.takeWhile_cons_of_pos taken,
          List.flatMap_cons]
      · rw [List.takeWhile_cons_of_neg taken,
          takeWhile_eq_nil_iff_stops.mpr (stops_images present alike taken _)]
        rfl

theorem dropWhile_flatMap (text : Text) :
    (text.flatMap images).dropWhile isTaken = (text.dropWhile isTaken).flatMap images := by
  induction text with
  | nil => rfl
  | cons first rest ih =>
      rw [List.flatMap_cons]
      by_cases taken : isTaken first = true
      · have all : ∀ image ∈ images first, isTaken image = true := fun image inside =>
          (alike first image inside).trans taken
        rw [List.dropWhile_append_of_pos all, ih, List.dropWhile_cons_of_pos taken]
      · rw [List.dropWhile_cons_of_neg taken,
          dropWhile_eq_self_of_stops (stops_images present alike taken _), List.flatMap_cons]

end Images

theorem stripWhere_foldCase {isTaken : Char → Bool} (ignoresCase : IgnoresCase isTaken)
    (text : Text) : stripWhere isTaken (foldCase text) = foldCase (stripWhere isTaken text) := by
  have present (character : Char) : (List.reverse ∘ foldCharacter) character ≠ [] :=
    mt List.reverse_eq_nil_iff.mp (foldCharacter_ne_nil character)
  have alike (character : Char) :
      ∀ image ∈ (List.reverse ∘ foldCharacter) character, isTaken image = isTaken character :=
    fun image inside => ignoresCase character image (List.mem_reverse.mp inside)
  rw [stripWhere, foldCase, dropWhile_flatMap foldCharacter_ne_nil ignoresCase,
    List.reverse_flatMap, dropWhile_flatMap present alike, List.reverse_flatMap, stripWhere,
    foldCase]
  simp [Function.comp_def]

theorem any_foldCase {isTaken : Char → Bool} (ignoresCase : IgnoresCase isTaken) (text : Text) :
    (foldCase text).any isTaken = text.any isTaken := by
  have single (character : Char) : (foldCharacter character).any isTaken = isTaken character := by
    obtain ⟨image, inside⟩ := List.exists_mem_of_ne_nil _ (foldCharacter_ne_nil character)
    rw [Bool.eq_iff_iff, List.any_eq_true]
    exact ⟨fun ⟨_, among, taken⟩ => ignoresCase character _ among ▸ taken,
      fun taken => ⟨image, inside, (ignoresCase character image inside).trans taken⟩⟩
  rw [foldCase, List.any_flatMap]
  simp only [single]

theorem all_foldCase {isTaken : Char → Bool} (ignoresCase : IgnoresCase isTaken) (text : Text) :
    (foldCase text).all isTaken = text.all isTaken := by
  have others : IgnoresCase fun character => !isTaken character := fun character image inside =>
    congrArg not (ignoresCase character image inside)
  rw [List.all_eq_not_any_not, List.all_eq_not_any_not, any_foldCase others]

theorem foldCase_cons (first : Char) (rest : Text) :
    foldCase (first :: rest) = foldCharacter first ++ foldCase rest :=
  List.flatMap_cons

theorem foldCase_cons_of_isCaseless {first : Char} (caseless : isCaseless first = true)
    (rest : Text) : foldCase (first :: rest) = first :: foldCase rest := by
  rw [foldCase_cons, foldCharacter_of_isCaseless caseless, List.singleton_append]

theorem exists_foldCase_cons (first : Char) (rest : Text) :
    ∃ image ∈ foldCharacter first, ∃ images, foldCase (first :: rest) = image :: images := by
  obtain ⟨image, images, folded⟩ := List.exists_cons_of_ne_nil (foldCharacter_ne_nil first)
  exact ⟨image, folded ▸ List.mem_cons_self, images ++ foldCase rest, by
    rw [foldCase_cons, folded, List.cons_append]⟩

theorem foldCase_of_isCaseless {text : Text} (caseless : text.all isCaseless) :
    foldCase text = text := by
  induction text with
  | nil => rfl
  | cons first rest ih =>
      rw [List.all_cons, Bool.and_eq_true] at caseless
      rw [foldCase_cons_of_isCaseless caseless.1, ih caseless.2]

theorem foldCase_of_isDigit {digits : Text} (all : digits.all isDigit) :
    foldCase digits = digits := by
  rw [List.all_eq_true] at all
  exact foldCase_of_isCaseless (List.all_eq_true.mpr fun digit inside =>
    isCaseless_of_isDigit (all digit inside))

end EventFilter.Text
