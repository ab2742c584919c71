import EventFilter.Proofs.Filter.Testing
import EventFilter.Proofs.Postorder.Conversion
import EventFilter.Proofs.Span.Keyword
import EventFilter.Proofs.Symbolic.Faults

/-!
Compilation of expressions.

A text that is read as the tokens of a parse tree is compiled to a filter that stands for the
formula of this tree. Conversely, every text that can be compiled is read so.
-/

namespace EventFilter.Filter

/-- A filter that answers with the value of a formula over predicate texts, or with the fault of
the first of them that fails. -/
structure StandsFor (filter : Filter Predicate) (formula : Formula Text) : Prop where
  value : ∀ (properties : PropertyMap) (eventName : Value) (truth : Text → Bool),
    (∀ name ∈ formula.atoms,
      Predicate.answer name properties eventName = .ok (truth name)) →
    filter.testProperties .standard properties eventName = .ok (formula.value truth)
  fault : ∀ (properties : PropertyMap) (eventName : Value) (before : List Text) (name : Text)
      (after : List Text) (fault : Fault), formula.atoms = before ++ name :: after →
    (∀ earlier ∈ before, ∃ holds, Predicate.answer earlier properties eventName = .ok holds) →
    Predicate.answer name properties eventName = .error fault →
    filter.testProperties .standard properties eventName = .error fault
  tested : ∀ name ∈ formula.atoms, ∃ predicate ∈ filter.items,
    Predicate.build name = .ok predicate

variable {source expression : Text} {formula : Formula Text}

theorem standsFor_single {name : Text} {predicate : Predicate}
    (built : Predicate.build name = .ok predicate) :
    StandsFor ⟨source, .single predicate⟩ (.atom name) := by
  have same := Predicate.answer_of_build built
  refine ⟨?_, ?_, ?_⟩
  · intro properties eventName truth answers
    have answered := answers name (by simp [Formula.atoms])
    rwa [same] at answered
  · intro properties eventName before other after fault atoms _ fails
    cases before with
    | nil =>
        cases atoms
        rwa [same] at fails
    | cons earlier before => simp [Formula.atoms] at atoms
  · intro other inside
    rw [Formula.atoms, List.mem_singleton] at inside
    exact ⟨predicate, List.mem_singleton_self predicate, inside ▸ built⟩

theorem eraseDups_concat {before : List Text} {name : Text} (new : name ∉ before) :
    (before ++ [name]).eraseDups = before.eraseDups ++ [name] := by
  have kept : [name].removeAll before = [name] := by
    simp [List.removeAll, new]
  rw [List.eraseDups_append, kept]
  rfl

theorem eraseDups_append_new {before : List Text} {name : Text} (new : name ∉ before)
    (after : List Text) :
    ∃ rest, (before ++ name :: after).eraseDups = before.eraseDups ++ name :: rest := by
  rw [List.append_cons, List.eraseDups_append, eraseDups_concat new, List.append_assoc]
  exact ⟨_, rfl⟩

theorem standsFor_compound {items : List (Text × Predicate)}
    (built : ∀ item ∈ items, Predicate.build item.1 = .ok item.2)
    (texts : items.map Prod.fst = formula.atoms.eraseDups) :
    StandsFor ⟨source, .compound items (formula.map (Symbolic.place items)).postorder⟩
      formula := by
  have known : ∀ name, name ∈ formula.atoms ↔ name ∈ items.map Prod.fst := by
    intro name
    rw [texts, List.mem_eraseDups]
  refine ⟨?_, ?_, ?_⟩
  · intro properties eventName truth answers
    apply evaluate_value built fun name => (known name).mp
    intro item inside
    exact answers item.1 ((known item.1).mpr (List.mem_map_of_mem inside))
  · intro properties eventName before name after fault atoms passes fails
    -- The predicates before it pass, so this is the first occurrence of the one that fails.
    have new : name ∉ before := by
      intro inside
      obtain ⟨holds, passed⟩ := passes name inside
      rw [fails] at passed
      cases passed
    obtain ⟨rest, distinct⟩ := eraseDups_append_new new after
    rw [atoms, distinct, List.map_eq_append_iff] at texts
    obtain ⟨first, others, rfl, firstTexts, othersTexts⟩ := texts
    obtain ⟨item, last, rfl, rfl, _⟩ := List.map_eq_cons_iff.mp othersTexts
    apply evaluate_fault built _ fails
    intro earlier inside
    apply passes earlier.1
    rw [← List.mem_eraseDups, ← firstTexts]
    exact List.mem_map_of_mem inside
  · intro name inside
    obtain ⟨item, member, rfl⟩ := List.mem_map.mp ((known name).mp inside)
    exact ⟨item.2, List.mem_map_of_mem member, built item member⟩

theorem compile_simple {settings : Settings} {predicate : Predicate}
    (simple : isSimple .standard expression = true)
    (built : Predicate.build expression = .ok predicate) :
    compile .standard settings expression = .ok (.single predicate) := by
  have same : PredicateKind.standard.build expression = .ok predicate := built
  rw [compile, if_pos simple, same]
  rfl

theorem compile_compound {Effect : Type → Type} {Item : Type} {kind : PredicateKind Effect Item}
    {settings : Settings} {symbolic : Symbolic Item} {tree : ParseTree Int .loose}
    (complex : isSimple kind expression = false)
    (numbered : Symbolic.ofText ⟨kind, settings.ceiling⟩ settings.keywords expression =
      .ok symbolic)
    (derived : tree.tokens = symbolic.tokens) :
    compile kind settings expression =
      .ok (.compound symbolic.items tree.formula.postorder) := by
  have converted : Postorder.ofPlaced expression symbolic.placed =
      .ok tree.formula.postorder :=
    (Postorder.ofPlaced_eq_ok_iff _ _ _).mpr ⟨tree, derived, rfl⟩
  rw [compile, complex, if_neg Bool.false_ne_true, numbered]
  simp only [bind, Except.bind, converted, Postorder.check_postorder]
  rfl

theorem build_eq_ok_iff {Effect : Type → Type} {Item : Type} {kind : PredicateKind Effect Item}
    {settings : Settings} {filter : Filter Item} :
    build kind settings expression = .ok filter ↔
      expression ≠ [] ∧ filter.source = expression ∧
        compile kind settings expression = .ok filter.form := by
  obtain ⟨source, form⟩ := filter
  rw [build]
  cases expression with
  | nil => simp
  | cons first rest =>
      cases compile kind settings (first :: rest) with
      | error fault => simp [bind, Except.bind]
      | ok compiled =>
          constructor
          · rintro ⟨⟩
            exact ⟨List.cons_ne_nil first rest, rfl, rfl⟩
          · rintro ⟨_, rfl, ⟨⟩⟩
            rfl

theorem isValid_of_isSimple {Effect : Type → Type} {Item : Type}
    {kind : PredicateKind Effect Item} (simple : isSimple kind expression = true) :
    kind.isValid expression = true := by
  simp only [isSimple, Bool.and_eq_true] at simple
  exact simple.1

theorem build_of_reads {settings : Settings} {tree : ParseTree Text .loose}
    (reads : Reads .standard settings.keywords expression tree.marks)
    (buildable : ∀ name ∈ tree.formula.atoms, ∃ predicate, Predicate.build name = .ok predicate)
    (room : ∀ ceiling, settings.ceiling = some ceiling →
      (tree.formula.atoms.eraseDups.length : Int) ≤ ceiling) :
    ∃ filter, build .standard settings expression = .ok filter ∧
      filter.StandsFor tree.formula := by
  have present : expression ≠ [] := by
    rintro rfl
    exact tree.marks_ne_nil (reads.unique .nil)
  cases simple : isSimple .standard expression with
  | true =>
      have same := ParseTree.formula_of_marks
        (reads.eq_atom_of_isValid (isValid_of_isSimple simple))
      rw [same] at buildable ⊢
      obtain ⟨predicate, built⟩ := buildable expression (List.mem_singleton_self expression)
      exact ⟨⟨expression, .single predicate⟩,
        build_eq_ok_iff.mpr ⟨present, rfl, compile_simple simple built⟩, standsFor_single built⟩
  | false =>
      rw [← ParseTree.filterMap_marks] at buildable room
      obtain ⟨symbolic, numbered, isNumbering⟩ : ∃ symbolic,
          Symbolic.ofText ⟨.standard, settings.ceiling⟩ settings.keywords expression =
            .ok symbolic ∧ Symbolic.IsNumbering .standard [] tree.marks symbolic :=
        Symbolic.exists_ofText reads buildable room
      have derived : (tree.map (Symbolic.place symbolic.items)).tokens = symbolic.tokens := by
        rw [isNumbering.tokens, ParseTree.tokens, ParseTree.marks_map, List.map_map]
        rfl
      have compiled := compile_compound simple numbered derived
      rw [ParseTree.formula_map] at compiled
      have texts := isNumbering.map_fst_items
      rw [ParseTree.filterMap_marks] at texts
      exact ⟨⟨expression, _⟩, build_eq_ok_iff.mpr ⟨present, rfl, compiled⟩,
        standsFor_compound isNumbering.build texts⟩

theorem build_of_compile_simple {settings : Settings} {form : FilterForm Predicate}
    (simple : isSimple .standard expression = true)
    (compiled : compile .standard settings expression = .ok form) :
    ∃ predicate, Predicate.build expression = .ok predicate := by
  cases built : PredicateKind.standard.build expression with
  | error fault =>
      rw [compile, if_pos simple, built] at compiled
      cases compiled
  | ok predicate => exact ⟨predicate, built⟩

theorem exists_of_compile_compound {Effect : Type → Type} {Item : Type}
    {kind : PredicateKind Effect Item} {settings : Settings} {form : FilterForm Item}
    (complex : isSimple kind expression = false)
    (compiled : compile kind settings expression = .ok form) :
    ∃ symbolic output,
      Symbolic.ofText ⟨kind, settings.ceiling⟩ settings.keywords expression = .ok symbolic ∧
        Postorder.ofPlaced expression symbolic.placed = .ok output ∧
        form = .compound symbolic.items output := by
  rw [compile, complex, if_neg Bool.false_ne_true] at compiled
  cases numbered : Symbolic.ofText ⟨kind, settings.ceiling⟩ settings.keywords expression with
  | error fault =>
      rw [numbered] at compiled
      cases compiled
  | ok symbolic =>
      rw [numbered] at compiled
      cases converted : Postorder.ofPlaced expression symbolic.placed with
      | error fault =>
          simp only [bind, Except.bind, converted] at compiled
          cases compiled
      | ok output =>
          have checked := Postorder.check_of_ofPlaced converted
          simp only [bind, Except.bind, converted, checked] at compiled
          cases compiled
          exact ⟨symbolic, output, rfl, converted, rfl⟩

theorem exists_tree_of_tokens {marks : List (Mark Text)} {symbolic : Symbolic Predicate}
    (isNumbering : Symbolic.IsNumbering .standard [] marks symbolic)
    {tree : ParseTree Int .loose} (derived : tree.tokens = symbolic.tokens) :
    ∃ named : ParseTree Text .loose, named.marks = marks := by
  let name (index : Int) : Text := (symbolic.items[index.toNat]?.map Prod.fst).getD []
  have named : ∀ text ∈ marks.filterMap Mark.atom?,
      name (Symbolic.place symbolic.items text) = text := by
    intro text inside
    obtain ⟨predicate, found⟩ := Symbolic.getElem?_place (isNumbering.mem_items_iff.mpr inside)
    simp [name, found]
  have placed : tree.marks = marks.map (Mark.map (Symbolic.place symbolic.items)) := by
    apply (List.map_inj_right fun _ _ same => Mark.token_injective same).mp
    rw [List.map_map]
    exact derived.trans isNumbering.tokens
  refine ⟨tree.map name, ?_⟩
  rw [ParseTree.marks_map, placed, List.map_map]
  calc
    marks.map (Mark.map name ∘ Mark.map (Symbolic.place symbolic.items)) = marks.map id := by
      apply List.map_congr_left
      intro mark inside
      rw [Function.comp_apply, Mark.map_map]
      apply Mark.map_eq_self
      intro text isAtom
      exact named text (List.mem_filterMap.mpr ⟨mark, inside, isAtom⟩)
    _ = marks := List.map_id marks

theorem exists_tree_of_build {settings : Settings} {filter : Filter Predicate}
    (built : build .standard settings expression = .ok filter)
    (plain : settings.keywords = true → Predicate.isValid expression = true →
      ¬Lexeme.OpensWithKeyword expression) :
    ∃ tree : ParseTree Text .loose,
      Reads .standard settings.keywords expression tree.marks ∧
        ∀ name ∈ tree.formula.atoms, ∃ predicate, Predicate.build name = .ok predicate := by
  obtain ⟨present, _, compiled⟩ := build_eq_ok_iff.mp built
  cases simple : isSimple .standard expression with
  | true =>
      have valid := isValid_of_isSimple simple
      refine ⟨.ofConjunct (.ofNegand (.atom expression)),
        Reads.whole_predicate valid fun keywords => plain keywords valid, ?_⟩
      intro name inside
      rw [List.mem_singleton.mp inside]
      exact build_of_compile_simple simple compiled
  | false =>
      obtain ⟨symbolic, output, numbered, converted, _⟩ :=
        exists_of_compile_compound simple compiled
      obtain ⟨marks, reads, isNumbering⟩ := Symbolic.reads_of_ofText numbered
      obtain ⟨tree, derived, _⟩ := (Postorder.ofPlaced_eq_ok_iff _ _ _).mp converted
      obtain ⟨named, rfl⟩ := exists_tree_of_tokens isNumbering derived
      refine ⟨named, reads, ?_⟩
      intro name inside
      rw [← ParseTree.filterMap_marks, ← isNumbering.mem_items_iff] at inside
      obtain ⟨item, member, rfl⟩ := List.mem_map.mp inside
      exact ⟨item.2, isNumbering.build item member⟩

end EventFilter.Filter
