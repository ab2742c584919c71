import EventFilter.Proofs.Filter.Compilation
import EventFilter.Proofs.Formula.Layout

/-!
Filters of formulas that are laid out as texts.

However a formula is laid out, its text is read as its tokens, and so is compiled to a filter that
stands for it.
-/

namespace EventFilter

structure IsPlain (name : Text) : Prop where
  valid : Predicate.isValid name = true
  noKeyword : ¬Lexeme.OpensWithKeyword name
  noBound : ¬PredicateParts.IsBareBound name

namespace Layout

variable {piece : Piece} {pieces : List Piece} {margin following : Text}

theorem stops_of_blank {gap : Text} (present : gap ≠ []) (blank : gap.all Text.isBlank = true)
    (following : Text) : Text.Stops PredicateParts.isBare (gap ++ following) := by
  obtain ⟨first, rest, rfl⟩ := List.exists_cons_of_ne_nil present
  simp only [List.all_cons, Bool.and_eq_true] at blank
  rintro _ ⟨⟩
  cases bare : PredicateParts.isBare first with
  | false => rfl
  | true =>
      rw [PredicateParts.not_isBlank_of_isBare bare] at blank
      exact blank.1.symm

theorem endsKeyword_of_blank {gap : Text} (present : gap ≠ [])
    (blank : gap.all Text.isBlank = true) (following : Text) :
    Lexeme.endsKeyword (gap ++ following) = true := by
  obtain ⟨first, rest, rfl⟩ := List.exists_cons_of_ne_nil present
  simp only [List.all_cons, Bool.and_eq_true] at blank
  simp [Lexeme.endsKeyword, blank.1]

theorem stops_behind_atom {name : Text} (written : piece.written = .atom name)
    (blank : margin.all Text.isBlank = true)
    (separated : (piece :: pieces).IsChain Piece.Separated)
    (turns : Mark.TakesTurns false (pieces.map fun piece => piece.written.mark)) :
    name.getLast? = some '"' ∨ Text.Stops PredicateParts.isBare (textFrom margin pieces) := by
  cases pieces with
  | nil =>
      right
      cases margin with
      | nil => simp [textFrom, Text.Stops]
      | cons first rest =>
          have stops := stops_of_blank (List.cons_ne_nil first rest) blank []
          rwa [List.append_nil] at stops
  | cons next others =>
      obtain ⟨gap, gapBlank, shown⟩ := next
      cases gap with
      | cons first rest => exact .inr (stops_of_blank (List.cons_ne_nil first rest) gapBlank _)
      | nil =>
          have starts := turns.1
          cases shown with
          | atom | openGroup => cases starts
          | closeGroup =>
              right
              rintro _ ⟨⟩
              rfl
          | symbol operator =>
              right
              cases operator with
              | not => cases starts
              | and | or =>
                  rintro _ ⟨⟩
                  rfl
          | keyword operator word spelled =>
              left
              have apart := (List.isChain_cons_cons.mp separated).1.beforeKeyword rfl
              rw [written] at apart
              simpa [Written.isUnquoted] using apart

theorem endsKeyword_behind (isKeyword : piece.written.isKeyword = true)
    (separated : (piece :: pieces).IsChain Piece.Separated)
    (turns : Mark.TakesTurns true (pieces.map fun piece => piece.written.mark)) :
    Lexeme.endsKeyword (textFrom margin pieces) = true := by
  cases pieces with
  | nil => cases turns
  | cons next others =>
      obtain ⟨gap, gapBlank, shown⟩ := next
      cases gap with
      | cons first rest => exact endsKeyword_of_blank (List.cons_ne_nil first rest) gapBlank _
      | nil =>
          have apart := (List.isChain_cons_cons.mp separated).1.afterKeyword isKeyword
          obtain absent | rfl | rfl := apart
          · exact absurd rfl absent
          · rfl
          · rfl

theorem reads_textFrom {expectsOperand : Bool} (blank : margin.all Text.isBlank = true)
    (separated : pieces.IsChain Piece.Separated)
    (turns : Mark.TakesTurns expectsOperand (pieces.map fun piece => piece.written.mark))
    (plain : ∀ name, .atom name ∈ pieces.map (fun piece => piece.written.mark) → IsPlain name) :
    Reads .standard true (textFrom margin pieces)
      (pieces.map fun piece => piece.written.mark) := by
  induction pieces generalizing expectsOperand with
  | nil =>
      have reads : Reads .standard true (margin ++ []) [] := Reads.blanks blank .nil
      rwa [List.append_nil] at reads
  | cons piece rest ih =>
      have turnsBehind : Mark.TakesTurns (!piece.written.mark.endsOperand)
          (rest.map fun piece => piece.written.mark) := turns.2
      have reads := ih separated.tail turnsBehind
        fun name inside => plain name (List.mem_cons_of_mem _ inside)
      refine Reads.blanks piece.blank ?_
      rw [List.map_cons]
      cases shown : piece.written with
      | atom name =>
          have isPlain := plain name (by simp [shown, Written.mark])
          rw [shown] at turnsBehind
          have ends := stops_behind_atom shown blank separated turnsBehind
          exact Reads.predicate isPlain.valid (fun _ => isPlain.noKeyword)
            (PredicateParts.scan_append_exact isPlain.valid isPlain.noBound ends) reads
      | symbol operator => exact reads.symbol operator
      | keyword operator word spelled =>
          have isKeyword : piece.written.isKeyword = true := by rw [shown]; rfl
          rw [shown] at turnsBehind
          exact Reads.keyword spelled (endsKeyword_behind isKeyword separated turnsBehind) reads
      | openGroup => exact reads.openGroup
      | closeGroup => exact reads.closeGroup

end Layout

/-- Every layout of a formula is compiled, and the filter answers with the value of the formula
under the answers of its predicates, or with the first fault among these in reading order. -/
theorem Filter.build_layout {formula : Formula Text} (settings : Settings) (layout : Layout)
    (written : Parenthesised .loose formula layout.marks)
    (buildable : ∀ name ∈ formula.atoms, ∃ predicate, Predicate.build name = .ok predicate)
    (noKeyword : ∀ name ∈ formula.atoms, ¬Lexeme.OpensWithKeyword name)
    (noBound : ∀ name ∈ formula.atoms, ¬PredicateParts.IsBareBound name)
    (keywords : settings.keywords = true)
    (room : ∀ ceiling, settings.ceiling = some ceiling →
      (formula.atoms.eraseDups.length : Int) ≤ ceiling) :
    ∃ filter, Filter.build .standard settings layout.text = .ok filter ∧
      ∀ (properties : PropertyMap) (eventName : Value),
        (∀ truth : Text → Bool,
          (∀ name ∈ formula.atoms,
            Predicate.answer name properties eventName = .ok (truth name)) →
          filter.testProperties .standard properties eventName = .ok (formula.value truth)) ∧
        ∀ (before : List Text) (name : Text) (after : List Text) (fault : Fault),
          formula.atoms = before ++ name :: after →
          (∀ earlier ∈ before,
            ∃ holds, Predicate.answer earlier properties eventName = .ok holds) →
          Predicate.answer name properties eventName = .error fault →
          filter.testProperties .standard properties eventName = .error fault := by
  obtain ⟨tree, marks, atoms, value⟩ := written.exists_tree
  have turns := tree.takesTurns
  rw [marks] at turns
  have plain : ∀ name, .atom name ∈ layout.marks → IsPlain name := by
    intro name inside
    have mentioned : name ∈ formula.atoms := by
      rw [← atoms, ← ParseTree.filterMap_marks, marks]
      exact List.mem_filterMap.mpr ⟨.atom name, inside, rfl⟩
    obtain ⟨predicate, built⟩ := buildable name mentioned
    exact ⟨Predicate.isValid_of_build built, noKeyword name mentioned, noBound name mentioned⟩
  have reads : Reads .standard settings.keywords layout.text tree.marks := by
    rw [keywords, marks]
    exact Layout.reads_textFrom layout.blank layout.separated turns plain
  rw [← atoms] at buildable room
  obtain ⟨filter, built, standsFor⟩ := Filter.build_of_reads reads buildable room
  refine ⟨filter, built, fun properties eventName => ⟨?_, ?_⟩⟩
  · intro truth answers
    rw [← atoms] at answers
    rw [← value]
    exact standsFor.value properties eventName truth answers
  · rw [← atoms]
    exact standsFor.fault properties eventName

namespace Filter

/-- The text `NOT (Level==Error and Disk=="C 0"Or (Level==Error))||!Task!=GC` and a space. -/
def sampleLayout : Layout where
  pieces := [
    ⟨[], rfl, .keyword .not "NOT".toList rfl⟩, ⟨[' '], rfl, .openGroup⟩,
    ⟨[], rfl, .atom "Level==Error".toList⟩, ⟨[' '], rfl, .keyword .and "and".toList rfl⟩,
    ⟨[' '], rfl, .atom "Disk==\"C 0\"".toList⟩, ⟨[], rfl, .keyword .or "Or".toList rfl⟩,
    ⟨[' '], rfl, .openGroup⟩, ⟨[], rfl, .atom "Level==Error".toList⟩, ⟨[], rfl, .closeGroup⟩,
    ⟨[], rfl, .closeGroup⟩, ⟨[], rfl, .symbol .or⟩, ⟨[], rfl, .symbol .not⟩,
    ⟨[], rfl, .atom "Task!=GC".toList⟩]
  separated := by decide
  margin := [' ']
  blank := rfl

def sampleFormula : Formula Text :=
  .or (.not (.or (.and (.atom "Level==Error".toList) (.atom "Disk==\"C 0\"".toList))
    (.atom "Level==Error".toList))) (.not (.atom "Task!=GC".toList))

theorem parenthesised_sample : Parenthesised .loose sampleFormula sampleLayout.marks := by
  have level := Parenthesised.ofNegand (.atom "Level==Error".toList)
  have disk := Parenthesised.ofNegand (.atom "Disk==\"C 0\"".toList)
  have both := Parenthesised.or (.ofConjunct (.and level disk))
    (.ofConjunct (.ofNegand (.group (.ofConjunct level))))
  exact .or (.ofConjunct (.ofNegand (.not (.group both))))
    (.ofConjunct (.ofNegand (.not (.atom "Task!=GC".toList))))

theorem build_sample_layout :
    sampleLayout.text = "NOT (Level==Error and Disk==\"C 0\"Or (Level==Error))||!Task!=GC ".toList ∧
    Parenthesised .loose sampleFormula sampleLayout.marks ∧
    (∀ name ∈ sampleFormula.atoms, (∃ predicate, Predicate.build name = .ok predicate) ∧
      ¬Lexeme.OpensWithKeyword name ∧ ¬PredicateParts.IsBareBound name) ∧
    sampleFormula.atoms.eraseDups.length = 3 ∧
    ∃ filter, build .standard { ceiling := some 3 } sampleLayout.text = .ok filter ∧
      filter.testProperties .standard
        [(.text "Level".toList, .text "error".toList), (.text "Task".toList, .text "gc".toList)]
        .null = .ok true := by
  have atoms : ∀ name ∈ sampleFormula.atoms,
      (∃ predicate, Predicate.build name = .ok predicate) ∧
        ¬Lexeme.OpensWithKeyword name ∧ ¬PredicateParts.IsBareBound name := by
    intro name inside
    simp only [sampleFormula, Formula.atoms, List.cons_append, List.nil_append, List.mem_cons,
      List.not_mem_nil, or_false] at inside
    rcases inside with rfl | rfl | rfl | rfl
    all_goals
      exact ⟨⟨_, rfl⟩, Lexeme.not_opensWithKeyword rfl,
        PredicateParts.not_isBareBound_of_getLast? (by decide)⟩
  have room : ∀ ceiling, (some 3 : Option Int) = some ceiling →
      (sampleFormula.atoms.eraseDups.length : Int) ≤ ceiling := by
    rintro _ ⟨⟩
    decide
  refine ⟨by decide, parenthesised_sample, atoms, by decide, ?_⟩
  obtain ⟨filter, built, answers⟩ := build_layout { ceiling := some 3 } sampleLayout
    parenthesised_sample (fun name inside => (atoms name inside).1)
    (fun name inside => (atoms name inside).2.1) (fun name inside => (atoms name inside).2.2)
    rfl room
  refine ⟨filter, built, (answers _ _).1 (fun name => name == "Level==Error".toList) ?_⟩
  intro name inside
  simp only [sampleFormula, Formula.atoms, List.cons_append, List.nil_append, List.mem_cons,
    List.not_mem_nil, or_false] at inside
  rcases inside with rfl | rfl | rfl | rfl <;> rfl

end Filter

end EventFilter
