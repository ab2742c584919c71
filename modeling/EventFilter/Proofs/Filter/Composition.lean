import EventFilter.Proofs.Filter.Compilation
import EventFilter.Proofs.Span.Closing

/-!
Filters that are composed as texts.

Accepted texts can be put in parentheses and joined by connectives. The filters of such texts
answer with the connectives applied to the answers of the parts.
-/

namespace EventFilter.Filter

def grouped (text : Text) : Text :=
  '(' :: text ++ [')']

def joined (operator : Connective) (first second : Text) : Text :=
  grouped first ++ [' '] ++ operator.spelling ++ [' '] ++ grouped second

structure Expresses (expression : Text) (tree : ParseTree Text .loose) : Prop where
  reads : Reads .standard true expression tree.marks
  buildable : ∀ name ∈ tree.formula.atoms, ∃ predicate, Predicate.build name = .ok predicate

variable {expression first second : Text} {tree left right : ParseTree Text .loose}

theorem Expresses.build (expresses : Expresses expression tree) :
    ∃ filter, Filter.build .standard {} expression = .ok filter ∧
      filter.StandsFor tree.formula := by
  have room : ∀ ceiling, (none : Option Int) = some ceiling →
      (tree.formula.atoms.eraseDups.length : Int) ≤ ceiling := by
    rintro _ ⟨⟩
  have reads : Reads .standard ({} : Settings).keywords expression tree.marks := expresses.reads
  exact build_of_reads reads expresses.buildable room

theorem reads_grouped {tail : Text} {after : List (Mark Text)}
    (reads : Reads .standard true expression tree.marks)
    (behind : Reads .standard true tail after) :
    Reads .standard true (grouped expression ++ tail)
      ((ParseTree.group tree).marks ++ after) := by
  have inner := (reads.append_close tree.takesTurns behind).openGroup
  simpa [grouped, ParseTree.marks] using inner

theorem Expresses.group (expresses : Expresses expression tree) :
    Expresses (grouped expression) (.ofConjunct (.ofNegand (.group tree))) := by
  have reads := reads_grouped expresses.reads .nil
  rw [List.append_nil, List.append_nil] at reads
  exact ⟨reads, expresses.buildable⟩

theorem Expresses.not (expresses : Expresses expression tree) :
    Expresses ('!' :: grouped expression)
      (.ofConjunct (.ofNegand (.not (.group tree)))) :=
  ⟨expresses.group.reads.symbol .not, expresses.buildable⟩

theorem reads_joined (operator : Connective) (leftReads : Reads .standard true first left.marks)
    (rightReads : Reads .standard true second right.marks) :
    Reads .standard true (joined operator first second)
      ((ParseTree.group left).marks ++ .connective operator :: (ParseTree.group right).marks) := by
  have group := reads_grouped rightReads .nil
  rw [List.append_nil, List.append_nil] at group
  have behind : Reads .standard true ([' '] ++ (operator.spelling ++ ([' '] ++ grouped second)))
      (.connective operator :: (ParseTree.group right).marks) :=
    ((group.blanks rfl).symbol operator).blanks rfl
  have whole := reads_grouped leftReads behind
  simpa [joined] using whole

theorem Expresses.join (operator : Connective) (leftExpresses : Expresses first left)
    (rightExpresses : Expresses second right)
    (marks : tree.marks =
      (ParseTree.group left).marks ++ .connective operator :: (ParseTree.group right).marks)
    (atoms : tree.formula.atoms = left.formula.atoms ++ right.formula.atoms) :
    Expresses (joined operator first second) tree := by
  refine ⟨marks ▸ reads_joined operator leftExpresses.reads rightExpresses.reads, ?_⟩
  intro name inside
  rw [atoms] at inside
  rcases List.mem_append.mp inside with isLeft | isRight
  · exact leftExpresses.buildable name isLeft
  · exact rightExpresses.buildable name isRight

theorem Expresses.and (leftExpresses : Expresses first left)
    (rightExpresses : Expresses second right) :
    Expresses (joined .and first second)
      (.ofConjunct (.and (.ofNegand (.group left)) (.group right))) :=
  leftExpresses.join .and rightExpresses rfl rfl

theorem Expresses.or (leftExpresses : Expresses first left)
    (rightExpresses : Expresses second right) :
    Expresses (joined .or first second)
      (.or (.ofConjunct (.ofNegand (.group left))) (.ofNegand (.group right))) :=
  leftExpresses.join .or rightExpresses rfl rfl

theorem exists_expresses {filter : Filter Predicate}
    (built : Filter.build .standard {} expression = .ok filter)
    (plain : ¬(Predicate.isValid expression = true ∧ Lexeme.OpensWithKeyword expression)) :
    ∃ tree, Expresses expression tree ∧ filter.StandsFor tree.formula := by
  obtain ⟨tree, reads, buildable⟩ :=
    exists_tree_of_build built fun _ valid opens => plain ⟨valid, opens⟩
  have expresses : Expresses expression tree := ⟨reads, buildable⟩
  obtain ⟨other, again, standsFor⟩ := expresses.build
  rw [built] at again
  cases again
  exact ⟨tree, expresses, standsFor⟩

theorem StandsFor.answers {filter : Filter Predicate} {formula : Formula Text}
    {properties : PropertyMap} {eventName : Value} (standsFor : filter.StandsFor formula)
    (passes : ∀ predicate ∈ filter.items,
      ∃ holds, predicate.testProperties properties eventName = .ok holds) :
    ∀ name ∈ formula.atoms, ∃ holds, Predicate.answer name properties eventName = .ok holds := by
  intro name inside
  obtain ⟨predicate, member, built⟩ := standsFor.tested name inside
  rw [Predicate.answer_of_build built]
  exact passes predicate member

/-- Accepted texts compose: in parentheses, negated or joined they are accepted too, and as long
as no predicate fails the filters of the new texts combine the answers of the old ones. -/
theorem build_composed {firstFilter secondFilter : Filter Predicate}
    (firstBuilt : Filter.build .standard {} first = .ok firstFilter)
    (secondBuilt : Filter.build .standard {} second = .ok secondFilter)
    (firstPlain : ¬(Predicate.isValid first = true ∧ Lexeme.OpensWithKeyword first))
    (secondPlain : ¬(Predicate.isValid second = true ∧ Lexeme.OpensWithKeyword second)) :
    ∃ group negation both either,
      Filter.build .standard {} (grouped first) = .ok group ∧
      Filter.build .standard {} ('!' :: grouped first) = .ok negation ∧
      Filter.build .standard {} (joined .and first second) = .ok both ∧
      Filter.build .standard {} (joined .or first second) = .ok either ∧
      ∀ (properties : PropertyMap) (eventName : Value),
        (∀ predicate ∈ firstFilter.items ++ secondFilter.items,
          ∃ holds, predicate.testProperties properties eventName = .ok holds) →
        ∃ firstHolds secondHolds,
          firstFilter.testProperties .standard properties eventName = .ok firstHolds ∧
          secondFilter.testProperties .standard properties eventName = .ok secondHolds ∧
          group.testProperties .standard properties eventName = .ok firstHolds ∧
          negation.testProperties .standard properties eventName = .ok (!firstHolds) ∧
          both.testProperties .standard properties eventName =
            .ok (firstHolds && secondHolds) ∧
          either.testProperties .standard properties eventName =
            .ok (firstHolds || secondHolds) := by
  obtain ⟨left, leftExpresses, leftFilter⟩ := exists_expresses firstBuilt firstPlain
  obtain ⟨right, rightExpresses, rightFilter⟩ := exists_expresses secondBuilt secondPlain
  obtain ⟨group, groupBuilt, groupFilter⟩ := leftExpresses.group.build
  obtain ⟨negation, negationBuilt, negationFilter⟩ := leftExpresses.not.build
  obtain ⟨both, bothBuilt, bothFilter⟩ := (leftExpresses.and rightExpresses).build
  obtain ⟨either, eitherBuilt, eitherFilter⟩ := (leftExpresses.or rightExpresses).build
  refine ⟨group, negation, both, either, groupBuilt, negationBuilt, bothBuilt, eitherBuilt, ?_⟩
  intro properties eventName passes
  let truth (name : Text) : Bool :=
    (Predicate.answer name properties eventName).toOption.getD false
  have answers : ∀ name ∈ left.formula.atoms ++ right.formula.atoms,
      Predicate.answer name properties eventName = .ok (truth name) := by
    intro name inside
    obtain ⟨holds, answered⟩ : ∃ holds, Predicate.answer name properties eventName = .ok holds := by
      rcases List.mem_append.mp inside with isLeft | isRight
      · exact leftFilter.answers
          (fun predicate member => passes predicate (List.mem_append_left _ member)) name isLeft
      · exact rightFilter.answers
          (fun predicate member => passes predicate (List.mem_append_right _ member)) name isRight
    simp [truth, answered, Except.toOption]
  have leftAnswers := fun name inside => answers name (List.mem_append_left _ inside)
  have rightAnswers := fun name inside => answers name (List.mem_append_right _ inside)
  exact ⟨left.formula.value truth, right.formula.value truth,
    leftFilter.value properties eventName truth leftAnswers,
    rightFilter.value properties eventName truth rightAnswers,
    groupFilter.value properties eventName truth leftAnswers,
    negationFilter.value properties eventName truth leftAnswers,
    bothFilter.value properties eventName truth answers,
    eitherFilter.value properties eventName truth answers⟩

theorem build_composed_bound :
    Filter.build .standard {} "A==x".toList =
      .ok ⟨"A==x".toList, .single ⟨"A==x".toList, ⟨['A'], .equal, ['x']⟩, none⟩⟩ ∧
    Filter.build .standard {} "B>=".toList =
      .ok ⟨"B>=".toList, .single ⟨"B>=".toList, ⟨['B'], .greater, ['=']⟩, none⟩⟩ ∧
    ¬(Predicate.isValid "A==x".toList = true ∧ Lexeme.OpensWithKeyword "A==x".toList) ∧
    ¬(Predicate.isValid "B>=".toList = true ∧ Lexeme.OpensWithKeyword "B>=".toList) ∧
    joined .and "A==x".toList "B>=".toList = "(A==x) && (B>=)".toList ∧
    ∃ filter,
      Filter.build .standard {} (joined .and "A==x".toList "B>=".toList) = .ok filter ∧
      filter.testProperties .standard [(.text ['A'], .text ['X']), (.text ['B'], .text ['C'])]
        .null = .ok true := by
  have firstBuilt : Filter.build .standard {} "A==x".toList =
      .ok ⟨"A==x".toList, .single ⟨"A==x".toList, ⟨['A'], .equal, ['x']⟩, none⟩⟩ := rfl
  have secondBuilt : Filter.build .standard {} "B>=".toList =
      .ok ⟨"B>=".toList, .single ⟨"B>=".toList, ⟨['B'], .greater, ['=']⟩, none⟩⟩ := rfl
  have firstPlain : ¬(Predicate.isValid "A==x".toList = true ∧
      Lexeme.OpensWithKeyword "A==x".toList) :=
    fun both => Lexeme.not_opensWithKeyword rfl both.2
  have secondPlain : ¬(Predicate.isValid "B>=".toList = true ∧
      Lexeme.OpensWithKeyword "B>=".toList) :=
    fun both => Lexeme.not_opensWithKeyword rfl both.2
  refine ⟨firstBuilt, secondBuilt, firstPlain, secondPlain, by decide, ?_⟩
  obtain ⟨_, _, both, _, _, _, bothBuilt, _, answers⟩ :=
    build_composed firstBuilt secondBuilt firstPlain secondPlain
  obtain ⟨_, _, firstAnswer, secondAnswer, _, _, bothAnswer, _⟩ :=
    answers [(.text ['A'], .text ['X']), (.text ['B'], .text ['C'])] .null (by
      intro predicate inside
      rcases inside with _ | ⟨_, _ | ⟨_, ⟨⟩⟩⟩ <;> exact ⟨true, rfl⟩)
  cases firstAnswer
  cases secondAnswer
  exact ⟨both, bothBuilt, bothAnswer⟩

end EventFilter.Filter
