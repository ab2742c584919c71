import EventFilter.Proofs.Filter.Faults
import EventFilter.Proofs.FilterSet.Construction
import EventFilter.Settings.Validation

/-!
What the validation of settings comes to.

A value is refused with at least one problem, or it gives settings that are valid themselves. The
filters keep their order and their texts, and none of them is blank, so that a fault in one of them
always lies at a place in its expression.
-/

namespace EventFilter.Settings

open Text (allBlank)

section Filters

variable {value : Value} {filters before after : List (Text × Text)} {entry : Text × Text}
  {path : List PathStep}

def entriesOf (filters : List (Text × Text)) : Entries :=
  filters.map fun entry => (.text entry.1, .text entry.2)

def IsVisible (entry : Text × Text) : Prop :=
  allBlank entry.1 = false ∧ allBlank entry.2 = false

instance (entry : Text × Text) : Decidable (IsVisible entry) :=
  inferInstanceAs (Decidable (_ ∧ _))

theorem textProblem?_eq_none_iff : textProblem? value = none ↔ ∃ text, value = .text text := by
  cases value with
  | other type literal => cases type <;> simp [textProblem?]
  | null | flag | integer | real | text | list | map => simp [textProblem?]

theorem ofKey_eq_text_iff {key : Key} {name : Text} :
    Value.ofKey key = .text name ↔ key = .text name := by
  cases key <;> simp [Value.ofKey]

theorem entryProblems_eq_nil_iff (entry : Key × Value) :
    entryProblems entry = [] ↔ ∃ name expression, entry = (.text name, .text expression) := by
  obtain ⟨key, value⟩ := entry
  simp [entryProblems, textProblem?_eq_none_iff, ofKey_eq_text_iff]

theorem flatMap_entryProblems_eq_nil_iff {entries : Entries} :
    entries.flatMap entryProblems = [] ↔ ∃ filters, entries = entriesOf filters := by
  induction entries with
  | nil => simp [entriesOf]
  | cons entry rest ih =>
      rw [List.flatMap_cons, List.append_eq_nil_iff, entryProblems_eq_nil_iff, ih]
      constructor
      · rintro ⟨⟨name, expression, rfl⟩, filters, rfl⟩
        exact ⟨(name, expression) :: filters, rfl⟩
      · rintro ⟨filters, same⟩
        obtain ⟨first, others, rfl, rfl, rfl⟩ := List.map_eq_cons_iff.mp same.symm
        exact ⟨⟨first.1, first.2, rfl⟩, others, rfl⟩

theorem textEntries_entriesOf (filters : List (Text × Text)) :
    textEntries (entriesOf filters) = filters := by
  rw [textEntries, entriesOf, List.filterMap_map]
  exact List.filterMap_some

def blankKind (entry : Text × Text) : ProblemKind :=
  if allBlank entry.1 then .blankName else .blankExpression entry.1

theorem firstBlank?_append (visible : ∀ earlier ∈ before, IsVisible earlier)
    (rest : List (Text × Text)) : firstBlank? (before ++ rest) = firstBlank? rest := by
  induction before with
  | nil => rfl
  | cons first others ih =>
      obtain ⟨⟨name, expression⟩, later⟩ := List.forall_mem_cons.mp visible
      rw [List.cons_append, firstBlank?, name, expression]
      exact ih later

theorem firstBlank?_cons_of_not_isVisible (blank : ¬IsVisible entry) :
    firstBlank? (entry :: after) = some (blankKind entry) := by
  rw [firstBlank?, blankKind]
  by_cases name : allBlank entry.1 = true
  · simp [name]
  · have expression : allBlank entry.2 = true := by
      simpa [IsVisible, name] using blank
    simp [name, expression]

theorem firstBlank?_eq_none_iff :
    firstBlank? filters = none ↔ ∀ entry ∈ filters, IsVisible entry := by
  induction filters with
  | nil => simp [firstBlank?]
  | cons first others ih =>
      rw [List.forall_mem_cons, ← ih]
      by_cases visible : IsVisible first
      · obtain ⟨name, expression⟩ := visible
        simp [firstBlank?, IsVisible, name, expression]
      · simp [firstBlank?_cons_of_not_isVisible visible, visible]

theorem filtersOf_entriesOf (filters : List (Text × Text)) :
    filtersOf (.map (entriesOf filters)) =
      (firstBlank? filters).elim (.ok filters) fun kind =>
        .error [⟨kind, [.name filtersName]⟩] := by
  have typed : (entriesOf filters).flatMap entryProblems = [] :=
    flatMap_entryProblems_eq_nil_iff.mpr ⟨filters, rfl⟩
  rw [filtersOf, typed]
  simp only [textEntries_entriesOf]
  cases firstBlank? filters <;> rfl

theorem filtersOf_eq_ok_iff :
    filtersOf value = .ok filters ↔
      value = .map (entriesOf filters) ∧ ∀ entry ∈ filters, IsVisible entry := by
  constructor
  · intro accepted
    obtain ⟨given, rfl⟩ : ∃ given, value = .map (entriesOf given) := by
      unfold filtersOf at accepted
      split at accepted
      next entries =>
        split at accepted
        next typed =>
          obtain ⟨given, rfl⟩ := flatMap_entryProblems_eq_nil_iff.mp typed
          exact ⟨given, rfl⟩
        next => cases accepted
      next => cases accepted
    rw [filtersOf_entriesOf] at accepted
    rw [← firstBlank?_eq_none_iff]
    cases found : firstBlank? given with
    | some kind =>
        rw [found] at accepted
        cases accepted
    | none =>
        rw [found] at accepted
        cases accepted
        exact ⟨rfl, found⟩
  · rintro ⟨rfl, visible⟩
    rw [filtersOf_entriesOf, firstBlank?_eq_none_iff.mpr visible]
    rfl

theorem filtersOf_first_blank (visible : ∀ earlier ∈ before, IsVisible earlier)
    (blank : ¬IsVisible entry) :
    filtersOf (.map (entriesOf (before ++ entry :: after))) =
      .error [⟨blankKind entry, [.name filtersName]⟩] := by
  rw [filtersOf_entriesOf, firstBlank?_append visible, firstBlank?_cons_of_not_isVisible blank]
  rfl

theorem filtersOf_ne_error_nil (value : Value) : filtersOf value ≠ .error [] := by
  intro refused
  unfold filtersOf at refused
  split at refused
  next entries =>
    split at refused
    next =>
      dsimp only at refused
      split at refused <;> cases refused
    next present => exact present (Except.error.inj refused)
  next => cases refused

end Filters

def IsTyped {Result : Type} (outcome : Except ProblemKind Result) : Prop :=
  ∀ kind, outcome = .error kind → kind.rule ≠ "value_error"

namespace IsTyped

variable {First Second : Type}

theorem ok (result : First) : IsTyped (.ok result) := by
  rintro _ ⟨⟩

theorem error {kind : ProblemKind} (other : kind.rule ≠ "value_error") :
    IsTyped (.error kind : Except ProblemKind First) := by
  rintro _ ⟨⟩
  exact other

theorem bind {first : Except ProblemKind First} {next : First → Except ProblemKind Second}
    (typed : IsTyped first) (typedNext : ∀ value, IsTyped (next value)) :
    IsTyped (first >>= next) := by
  cases first with
  | error kind =>
      rintro other ⟨⟩
      exact typed kind rfl
  | ok value => exact typedNext value

theorem plainNatural (text : Text) : IsTyped (WrittenForm.plainNatural text) := by
  unfold WrittenForm.plainNatural
  split_ifs
  · exact ok _
  · exact error (by decide)
  · exact error (by decide)
  · exact ok _
  · exact error (by decide)

theorem plainInteger (text : Text) : IsTyped (WrittenForm.plainInteger text) := by
  unfold WrittenForm.plainInteger
  split <;> exact (plainNatural _).bind fun _ => ok _

theorem integer (text : Text) : IsTyped (WrittenForm.integer text) := by
  unfold WrittenForm.integer
  split
  · split
    · exact plainInteger _
    · exact error (by decide)
  · exact plainInteger text

theorem integerOfReal (number : Binary64) : IsTyped (integerOfReal number) := by
  unfold Settings.integerOfReal
  split
  · split_ifs
    · exact ok _
    · exact error (by decide)
  · exact error (by decide)
  · exact error (by decide)

theorem integer? (value : Value) : IsTyped (integer? value) := by
  unfold Settings.integer?
  split
  · exact ok _
  · exact ok _
  · exact integerOfReal _
  · exact integer _
  · exact error (by decide)
  · exact error (by decide)

theorem ceilingOf (value : Value) : IsTyped (ceilingOf value) := by
  unfold Settings.ceilingOf
  split
  · exact ok none
  · refine (integer? _).bind fun ceiling => ?_
    split_ifs
    · exact error (by decide)
    · exact ok _

theorem flagOfInteger (number : Int) : IsTyped (flagOfInteger number) := by
  unfold Settings.flagOfInteger
  split_ifs
  · exact ok _
  · exact ok _
  · exact error (by decide)

theorem keywordsOf (value : Value) : IsTyped (keywordsOf value) := by
  unfold Settings.keywordsOf
  split
  · exact ok _
  · split_ifs
    · exact flagOfInteger _
    · exact error (by decide)
  · split
    · exact flagOfInteger _
    · exact error (by decide)
  · split
    · exact ok _
    · exact error (by decide)
  · exact error (by decide)
  · exact error (by decide)

end IsTyped

section Fields

variable {entries : Entries} {settings : Settings}

def ceilingIn (entries : Entries) : Except (List Problem) (Option Int) :=
  field entries ceilingName none fun value => single ceilingName (ceilingOf value)

def keywordsIn (entries : Entries) : Except (List Problem) Bool :=
  field entries keywordsName true fun value => single keywordsName (keywordsOf value)

def filtersIn (entries : Entries) : Except (List Problem) (List (Text × Text)) :=
  field entries filtersName [] filtersOf

def unknownIn (entries : Entries) : List Problem :=
  entries.filterMap fun entry => keyProblem? entry.1

theorem validate_map (entries : Entries) :
    validate (.map entries) =
      match ceilingIn entries, keywordsIn entries, filtersIn entries, unknownIn entries with
      | .ok ceiling, .ok keywords, .ok filters, [] => .ok { ceiling, keywords, filters }
      | _, _, _, _ => .error (problemsOf (ceilingIn entries) ++ problemsOf (keywordsIn entries) ++
          problemsOf (filtersIn entries) ++ unknownIn entries) :=
  rfl

theorem single_ne_error_nil {Result : Type} (name : Text) (outcome : Except ProblemKind Result) :
    single name outcome ≠ .error [] := by
  cases outcome <;> rintro ⟨⟩

theorem field_ne_error_nil {Result : Type} {read : Value → Except (List Problem) Result}
    (reported : ∀ value, read value ≠ .error []) (entries : Entries) (name : Text)
    (usual : Result) : field entries name usual read ≠ .error [] := by
  unfold field
  split
  · exact reported _
  · rintro ⟨⟩

theorem problemsOf_eq_nil_iff {Result : Type} {outcome : Except (List Problem) Result}
    (reported : outcome ≠ .error []) :
    problemsOf outcome = [] ↔ ∃ result, outcome = .ok result := by
  cases outcome with
  | ok result => simp [problemsOf]
  | error problems =>
      simp only [problemsOf, reduceCtorEq, exists_false, iff_false]
      rintro rfl
      exact reported rfl

section Lookup

variable {Result : Type} {name : Text} {usual : Result}
  {read : Value → Except (List Problem) Result} {after : Entries} {value : Value}

theorem field_of_absent (absent : ∀ entry ∈ entries, entry.1 ≠ .text name) :
    field entries name usual read = .ok usual := by
  have missing : entries.find? (fun entry => entry.1 = .text name) = none := by
    rw [List.find?_eq_none]
    intro entry inside
    simpa using absent entry inside
  rw [field, missing]

theorem field_of_given (before : Entries) (earlier : ∀ entry ∈ before, entry.1 ≠ .text name) :
    field (before ++ (.text name, value) :: after) name usual read = read value := by
  have found : (before ++ (.text name, value) :: after).find?
      (fun entry => entry.1 = .text name) = some (.text name, value) := by
    rw [List.find?_eq_some_iff_append]
    exact ⟨by simp, before, after, rfl, fun entry inside => by simpa using earlier entry inside⟩
  rw [field, found]

theorem absent_or_given (entries : Entries) (name : Text) :
    (∀ entry ∈ entries, entry.1 ≠ .text name) ∨
      ∃ before value after, entries = before ++ (.text name, value) :: after ∧
        ∀ entry ∈ before, entry.1 ≠ .text name := by
  cases found : entries.find? fun entry => entry.1 = .text name with
  | none =>
      left
      intro entry inside
      simpa using List.find?_eq_none.mp found entry inside
  | some entry =>
      right
      obtain ⟨isName, before, after, rfl, earlier⟩ := List.find?_eq_some_iff_append.mp found
      obtain ⟨key, value⟩ := entry
      obtain rfl : key = .text name := of_decide_eq_true isName
      refine ⟨before, value, after, rfl, fun entry inside => ?_⟩
      simpa using earlier entry inside

end Lookup

/-- The filters that a value gives: the texts of the map under their name, in its order. -/
inductive GivesFilters : Value → List (Text × Text) → Prop
  | absent {entries : Entries} : (∀ entry ∈ entries, entry.1 ≠ .text filtersName) →
      GivesFilters (.map entries) []
  | given {before after : Entries} {filters : List (Text × Text)} :
      (∀ entry ∈ before, entry.1 ≠ .text filtersName) →
      GivesFilters (.map (before ++ (.text filtersName, .map (entriesOf filters)) :: after)) filters

theorem filtersIn_eq_ok_iff {filters : List (Text × Text)} :
    filtersIn entries = .ok filters ↔
      GivesFilters (.map entries) filters ∧ ∀ entry ∈ filters, IsVisible entry := by
  constructor
  · intro accepted
    rcases absent_or_given entries filtersName with absent | ⟨before, value, after, rfl, earlier⟩
    · rw [filtersIn, field_of_absent absent] at accepted
      cases accepted
      exact ⟨.absent absent, List.forall_mem_nil _⟩
    · rw [filtersIn, field_of_given before earlier, filtersOf_eq_ok_iff] at accepted
      obtain ⟨rfl, visible⟩ := accepted
      exact ⟨.given earlier, visible⟩
  · rintro ⟨gives, visible⟩
    cases gives with
    | absent absent => exact field_of_absent absent
    | @given before _ _ earlier =>
        rw [filtersIn, field_of_given before earlier, filtersOf_eq_ok_iff]
        exact ⟨rfl, visible⟩

theorem validate_cases (entries : Entries) :
    (∃ settings, validate (.map entries) = .ok settings ∧
      ceilingIn entries = .ok settings.ceiling ∧ keywordsIn entries = .ok settings.keywords ∧
      filtersIn entries = .ok settings.filters ∧ unknownIn entries = []) ∨
    ∃ problems, validate (.map entries) = .error problems ∧ problems ≠ [] ∧
      problems = problemsOf (ceilingIn entries) ++ problemsOf (keywordsIn entries) ++
        problemsOf (filtersIn entries) ++ unknownIn entries := by
  have ceilingReported : ceilingIn entries ≠ .error [] :=
    field_ne_error_nil (fun _ => single_ne_error_nil _ _) entries ceilingName none
  have keywordsReported : keywordsIn entries ≠ .error [] :=
    field_ne_error_nil (fun _ => single_ne_error_nil _ _) entries keywordsName true
  have filtersReported : filtersIn entries ≠ .error [] :=
    field_ne_error_nil filtersOf_ne_error_nil entries filtersName []
  rw [validate_map]
  split
  next ceiling keywords filters isCeiling isKeywords isFilters known =>
    exact .inl ⟨_, rfl, isCeiling, isKeywords, isFilters, known⟩
  next refused =>
    refine .inr ⟨_, rfl, ?_, rfl⟩
    simp only [ne_eq, List.append_eq_nil_iff, problemsOf_eq_nil_iff ceilingReported,
      problemsOf_eq_nil_iff keywordsReported, problemsOf_eq_nil_iff filtersReported]
    rintro ⟨⟨⟨⟨ceiling, isCeiling⟩, keywords, isKeywords⟩, filters, isFilters⟩, known⟩
    exact refused ceiling keywords filters isCeiling isKeywords isFilters known

theorem ne_nil_of_validate {value : Value} {problems : List Problem}
    (refused : validate value = .error problems) : problems ≠ [] := by
  cases value with
  | map entries =>
      rcases validate_cases entries with ⟨settings, accepted, _⟩ | ⟨others, alsoRefused, present, _⟩
      · rw [accepted] at refused
        cases refused
      · rw [refused, Except.error.injEq] at alsoRefused
        exact alsoRefused ▸ present
  | null | flag | integer | real | text | other | list =>
      cases refused
      exact List.cons_ne_nil _ _

end Fields

section Problems

variable {entries : Entries}

def isValueProblem (problem : Problem) : Bool :=
  problem.kind.rule == "value_error"

theorem valueProblems_of_isTyped {Result : Type} {read : Value → Except ProblemKind Result}
    (typed : ∀ value, IsTyped (read value)) (entries : Entries) (name : Text) (usual : Result) :
    (problemsOf (field entries name usual fun value => single name (read value))).filter
      isValueProblem = [] := by
  unfold field
  split
  next value _ =>
    dsimp only
    cases outcome : read value with
    | ok result => rfl
    | error kind =>
        have other := typed value kind outcome
        simp [single, Except.mapError, problemsOf, isValueProblem, other]
  next => rfl

theorem valueProblems_unknownIn (entries : Entries) :
    (unknownIn entries).filter isValueProblem = [] := by
  rw [List.filter_eq_nil_iff]
  intro problem inside
  obtain ⟨entry, _, found⟩ := List.mem_filterMap.mp inside
  unfold keyProblem? at found
  split at found
  · split at found <;> cases found
    simp [isValueProblem, ProblemKind.rule]
  · cases found
    simp [isValueProblem, ProblemKind.rule]

theorem valueProblems_of_validate {problems : List Problem}
    (refused : validate (.map entries) = .error problems) :
    problems.filter isValueProblem = (problemsOf (filtersIn entries)).filter isValueProblem := by
  rcases validate_cases entries with ⟨settings, accepted, _⟩ | ⟨others, alsoRefused, _, same⟩
  · rw [accepted] at refused
    cases refused
  · rw [refused, Except.error.injEq] at alsoRefused
    rw [alsoRefused, same, List.filter_append, List.filter_append, List.filter_append,
      valueProblems_unknownIn, ceilingIn, keywordsIn,
      valueProblems_of_isTyped IsTyped.ceilingOf, valueProblems_of_isTyped IsTyped.keywordsOf]
    simp

theorem valueProblems_of_first_blank {value : Value} {before after : List (Text × Text)}
    {entry : Text × Text} (gives : GivesFilters value (before ++ entry :: after))
    (visible : ∀ earlier ∈ before, IsVisible earlier) (blank : ¬IsVisible entry) :
    ∃ problems, validate value = .error problems ∧
      problems.filter isValueProblem = [⟨blankKind entry, [.name filtersName]⟩] := by
  generalize whole : before ++ entry :: after = filters at gives
  cases gives with
  | absent => simp at whole
  | @given earlier later _ absent =>
      subst whole
      have read : filtersIn (earlier ++
          (.text filtersName, .map (entriesOf (before ++ entry :: after))) :: later) =
            .error [⟨blankKind entry, [.name filtersName]⟩] := by
        rw [filtersIn, field_of_given earlier absent, filtersOf_first_blank visible blank]
      rcases validate_cases (earlier ++
          (.text filtersName, .map (entriesOf (before ++ entry :: after))) :: later) with
        ⟨settings, _, _, _, accepted, _⟩ | ⟨problems, refused, _⟩
      · rw [read] at accepted
        cases accepted
      · refine ⟨problems, refused, ?_⟩
        rw [valueProblems_of_validate refused, read, problemsOf, blankKind]
        by_cases name : allBlank entry.1 = true <;> simp [name, isValueProblem, ProblemKind.rule]

end Problems

section Accepted

variable {settings : Settings}

/-- Settings that leave room for a predicate and have no blank name or expression. -/
structure IsAcceptable (settings : Settings) : Prop where
  ceiling : ∀ ceiling, settings.ceiling = some ceiling → 1 ≤ ceiling
  names : ∀ entry ∈ settings.filters, ∃ character ∈ entry.1, Text.isBlank character = false
  expressions : ∀ entry ∈ settings.filters, ∃ character ∈ entry.2, Text.isBlank character = false

theorem exists_visible_iff {text : Text} :
    (∃ character ∈ text, Text.isBlank character = false) ↔ allBlank text = false := by
  rw [allBlank, List.all_eq_false]
  simp

theorem le_of_ceilingOf {value : Value} {ceiling : Int}
    (read : ceilingOf value = .ok (some ceiling)) : 1 ≤ ceiling := by
  unfold ceilingOf at read
  split at read
  · cases read
  next =>
    cases converted : integer? value with
    | error kind =>
        rw [converted] at read
        cases read
    | ok whole =>
        rw [converted] at read
        simp only [bind, Except.bind] at read
        split at read
        next => cases read
        next large =>
          cases read
          omega

theorem le_of_ceilingIn {entries : Entries} {ceiling : Int}
    (read : ceilingIn entries = .ok (some ceiling)) : 1 ≤ ceiling := by
  rcases absent_or_given entries ceilingName with absent | ⟨before, value, after, rfl, earlier⟩
  · rw [ceilingIn, field_of_absent absent] at read
    cases read
  · rw [ceilingIn, field_of_given before earlier] at read
    cases converted : ceilingOf value with
    | error kind =>
        rw [converted] at read
        cases read
    | ok found =>
        rw [converted] at read
        cases read
        exact le_of_ceilingOf converted

theorem ceilingOf_of_le {ceiling : Int} (room : 1 ≤ ceiling) :
    ceilingOf (.integer ceiling) = .ok (some ceiling) := by
  have enough : ¬ceiling < 1 := by omega
  simp [ceilingOf, integer?, bind, Except.bind, enough]

/-- Acceptable settings, written as a map of their three fields, are read as themselves. -/
theorem validate_toValue (acceptable : settings.IsAcceptable) :
    validate settings.toValue = .ok settings := by
  obtain ⟨ceiling, keywords, filters⟩ := settings
  have visible : ∀ entry ∈ filters, IsVisible entry := fun entry inside =>
    ⟨exists_visible_iff.mp (acceptable.names entry inside),
      exists_visible_iff.mp (acceptable.expressions entry inside)⟩
  have notKeywords : ceilingName ≠ keywordsName := by decide
  have notFilters : ceilingName ≠ filtersName ∧ keywordsName ≠ filtersName := by decide
  let first : Key × Value := (.text ceilingName, match ceiling with
    | some ceiling => .integer ceiling
    | none => .null)
  let second : Key × Value := (.text keywordsName, .flag keywords)
  let entries : Entries := [first, second, (.text filtersName, .map (entriesOf filters))]
  have isCeiling : ceilingIn entries = .ok ceiling := by
    have given : ceilingIn entries = single ceilingName (ceilingOf first.2) :=
      field_of_given [] (List.forall_mem_nil _)
    rw [given]
    cases ceiling with
    | none => rfl
    | some ceiling =>
        rw [ceilingOf_of_le (acceptable.ceiling ceiling rfl)]
        rfl
  have isKeywords : keywordsIn entries = .ok keywords :=
    field_of_given [first] (by simpa [first] using notKeywords)
  have isFilters : filtersIn entries = .ok filters := by
    refine filtersIn_eq_ok_iff.mpr ⟨@GivesFilters.given [first, second] [] filters ?_, visible⟩
    simpa [first, second] using notFilters
  have known : unknownIn entries = [] := by
    simp [unknownIn, entries, first, second, keyProblem?]
  have same : toValue ⟨ceiling, keywords, filters⟩ = .map entries := by
    cases ceiling <;> rfl
  rw [same, validate_map, isCeiling, isKeywords, isFilters, known]

theorem isAcceptable_of_validate {value : Value} (accepted : validate value = .ok settings) :
    settings.IsAcceptable ∧ GivesFilters value settings.filters := by
  cases value with
  | map entries =>
      rcases validate_cases entries with
        ⟨same, alsoAccepted, isCeiling, _, isFilters, _⟩ | ⟨problems, refused, _⟩
      · rw [accepted, Except.ok.injEq] at alsoAccepted
        subst alsoAccepted
        obtain ⟨gives, visible⟩ := filtersIn_eq_ok_iff.mp isFilters
        refine ⟨⟨fun ceiling limited => ?_, fun entry inside => ?_, fun entry inside => ?_⟩, gives⟩
        · rw [limited] at isCeiling
          exact le_of_ceilingIn isCeiling
        · exact exists_visible_iff.mpr (visible entry inside).1
        · exact exists_visible_iff.mpr (visible entry inside).2
      · rw [accepted] at refused
        cases refused
  | null | flag | integer | real | text | other | list => cases accepted

end Accepted

section FilterSets

variable {Effect : Type → Type} {Item : Type} {kind : PredicateKind Effect Item}
  {settings : Settings}

theorem exists_position_of_build (supplied : kind.IsSupplied) (acceptable : settings.IsAcceptable)
    {fault : ParsingFault} (failed : FilterSet.build kind settings = .error (.parsing fault)) :
    ∃ position, fault.position = some position := by
  rcases passes_or_firstFault (fun entry => Filter.build kind settings entry.2)
    settings.filters with passes | ⟨before, entry, inner, found⟩
  · obtain ⟨filterSet, built⟩ := FilterSet.exists_build_eq_ok_iff.mpr passes
    rw [built] at failed
    cases failed
  · have named := FilterSet.build_eq_error_of_firstFault found
    rw [failed, Except.error.injEq] at named
    have present : entry.2 ≠ [] := by
      obtain ⟨after, placed⟩ := found.placed
      have inside : entry ∈ settings.filters := by simp [placed]
      obtain ⟨character, contained, _⟩ := acceptable.expressions entry inside
      exact List.ne_nil_of_mem contained
    have above : ∀ ceiling, settings.ceiling = some ceiling →
        -(Text.digitBound : Int) < ceiling := fun ceiling limited =>
      Int.lt_of_lt_of_le (Text.neg_digitBound_lt 1) (acceptable.ceiling ceiling limited)
    rcases Filter.fault_cases supplied above found.fails with
      ⟨empty, _⟩ | ⟨_, liesIn⟩ | ⟨value, rfl⟩
    · exact absurd empty present
    · cases liesIn <;> cases named <;> exact ⟨_, rfl⟩
    · cases named

end FilterSets

/-- Any value is refused with at least one problem, or it gives acceptable settings, with the
filters that it says in their order, and these settings are read as themselves. If it gives filters
by their texts, exactly the first blank one is reported, and its name comes before its expression. A
filter set of accepted settings is built, or the fault is a numeral or lies at a place in an
expression. -/
theorem validate_accepts_or_reports (value : Value) :
    ((∃ problems, validate value = .error problems ∧ problems ≠ []) ∨
      ∃ settings, validate value = .ok settings ∧ settings.IsAcceptable ∧
        GivesFilters value settings.filters ∧ validate settings.toValue = .ok settings) ∧
    (∀ (before : List (Text × Text)) (entry : Text × Text) (after : List (Text × Text)),
      GivesFilters value (before ++ entry :: after) →
      (∀ earlier ∈ before, IsVisible earlier) → ¬IsVisible entry →
      ∃ problems, validate value = .error problems ∧
        problems.filter isValueProblem = [⟨blankKind entry, [.name filtersName]⟩]) ∧
    ∀ settings, validate value = .ok settings →
      ∀ {Effect : Type → Type} {Item : Type} (kind : PredicateKind Effect Item), kind.IsSupplied →
        ∀ fault, FilterSet.build kind settings = .error (.parsing fault) →
          ∃ position, fault.position = some position := by
  refine ⟨?_, fun before entry after => valueProblems_of_first_blank, ?_⟩
  · cases outcome : validate value with
    | ok settings =>
        obtain ⟨acceptable, gives⟩ := isAcceptable_of_validate outcome
        exact .inr ⟨settings, rfl, acceptable, gives, validate_toValue acceptable⟩
    | error problems => exact .inl ⟨problems, rfl, ne_nil_of_validate outcome⟩
  · intro settings accepted Effect Item kind supplied fault failed
    exact exists_position_of_build supplied (isAcceptable_of_validate accepted).1 failed

theorem validate_accepts_or_reports_blank_name :
    (∃ problems, validate (.map [(.text filtersName,
        .map (entriesOf [(['a'], ['x']), ([' ', '\t'], []), (['b'], [])]))]) = .error problems ∧
      problems.filter isValueProblem = [⟨.blankName, [.name filtersName]⟩]) ∧
    ∃ settings fault, validate (.map [(.text filtersName, .map (entriesOf [(['a'], ['?'])])),
        (.text ceilingName, .text " +0_2.0".toList)]) = .ok settings ∧
      settings = ⟨some 2, true, [(['a'], ['?'])]⟩ ∧
      FilterSet.build .standard settings = .error (.parsing fault) ∧
      ∃ position, fault.position = some position := by
  constructor
  · have gives : GivesFilters (.map [(.text filtersName,
        .map (entriesOf [(['a'], ['x']), ([' ', '\t'], []), (['b'], [])]))])
          ([(['a'], ['x'])] ++ ([' ', '\t'], []) :: [(['b'], [])]) :=
      @GivesFilters.given [] [] _ (List.forall_mem_nil _)
    exact (validate_accepts_or_reports _).2.1 _ _ _ gives
      (List.forall_mem_singleton.mpr (by decide)) (by decide)
  · have accepted : validate (.map [(.text filtersName, .map (entriesOf [(['a'], ['?'])])),
        (.text ceilingName, .text " +0_2.0".toList)]) =
          .ok ⟨some 2, true, [(['a'], ['?'])]⟩ := by
      decide +kernel
    have spans : Spans.ofText .standard true ['?'] = ⟨[], some 0⟩ := by decide +kernel
    have refused : Filter.build .standard ⟨some 2, true, [(['a'], ['?'])]⟩ ['?'] =
        .error (.parsing ⟨.unrecognisedToken, some ['?'], some 0⟩) := by
      have complex : Filter.isSimple .standard ['?'] = false := rfl
      have present : ['?'] ≠ [] := List.cons_ne_nil _ _
      refine (Filter.build_eq_error_iff present).mpr (Filter.compile_eq_error_iff.mpr
        (.inr ⟨complex, .inl ?_⟩))
      rw [Symbolic.ofText, spans]
      rfl
    let settings : Settings := ⟨some 2, true, [(['a'], ['?'])]⟩
    have found : FirstFault (fun entry => Filter.build .standard settings entry.2)
        settings.filters [] (['a'], ['?']) (.parsing ⟨.unrecognisedToken, some ['?'], some 0⟩) :=
      ⟨⟨[], rfl⟩, List.forall_mem_nil _, refused⟩
    have failed : FilterSet.build .standard settings =
        .error (.parsing ⟨.inFilter ['a'] .unrecognisedToken, some ['?'], some 0⟩) :=
      FilterSet.build_eq_error_of_firstFault found
    exact ⟨_, _, accepted, rfl, failed,
      (validate_accepts_or_reports _).2.2 _ accepted .standard .standard _ failed⟩

end EventFilter.Settings
