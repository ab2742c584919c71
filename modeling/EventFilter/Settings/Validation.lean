import EventFilter.Settings.Basic
import EventFilter.Settings.WrittenForm

/-!
Validation of settings that are given as a value.

`Settings.validate` reports the problems of the known fields in their order, then those of the
other keys in the order of the map. There are settings if and only if there is no problem.
-/

namespace EventFilter.Settings

/-- The integer that a number without a fraction is, if it lies strictly between -2^63 and
2^63. -/
def integerOfReal (value : Binary64) : Except ProblemKind Int :=
  match value, value.int? with
  | .finite _ _, some whole =>
    if whole.natAbs < Nat.pow 2 63 then .ok whole else .error .integerTooLong
  | .finite _ _, none => .error .fractionalPart
  | _, _ => .error .notFinite

def integer? : Value → Except ProblemKind Int
  | .integer value => .ok value
  | .flag isSet => .ok (if isSet then 1 else 0)
  | .real value => integerOfReal value
  | .text text => WrittenForm.integer text
  | .other .octets _ => .error .notIntegerText
  | _ => .error .notInteger

def ceilingOf : Value → Except ProblemKind (Option Int)
  | .null => .ok none
  | value => do
    let ceiling ← integer? value
    if ceiling < 1 then .error .belowOne else .ok (some ceiling)

def flagOfInteger (value : Int) : Except ProblemKind Bool :=
  if value = 0 then .ok false else if value = 1 then .ok true else .error .notFlagValue

def keywordsOf : Value → Except ProblemKind Bool
  | .flag isSet => .ok isSet
  | .integer value => if fitsWord value then flagOfInteger value else .error .notFlag
  | .real value =>
    match integerOfReal value with
    | .ok whole => flagOfInteger whole
    | .error _ => .error .notFlag
  | .text text =>
    match WrittenForm.flag? text with
    | some isSet => .ok isSet
    | none => .error .notFlagValue
  | .other .octets _ => .error .notFlagValue
  | _ => .error .notFlag

def textProblem? : Value → Option ProblemKind
  | .text _ => none
  | .other .octets _ => some .notUnicode
  | _ => some .notText

/-- The problems of the types of one filter: those of the name come first. -/
def entryProblems (entry : Key × Value) : List Problem :=
  let path := [.name filtersName, entry.1.pathStep]
  let ofName := (textProblem? (Value.ofKey entry.1)).map fun kind =>
    Problem.mk kind (path ++ [.name "[key]".toList])
  let ofExpression := (textProblem? entry.2).map fun kind => Problem.mk kind path
  ofName.toList ++ ofExpression.toList

def textEntries (entries : Entries) : List (Text × Text) :=
  entries.filterMap fun entry =>
    match entry with
    | (.text name, .text expression) => some (name, expression)
    | _ => none

def firstBlank? : List (Text × Text) → Option ProblemKind
  | [] => none
  | (name, expression) :: rest =>
    if Text.allBlank name then some .blankName
    else if Text.allBlank expression then some (.blankExpression name)
    else firstBlank? rest

def filtersOf : Value → Except (List Problem) (List (Text × Text))
  | .map entries =>
    match entries.flatMap entryProblems with
    | [] =>
      let filters := textEntries entries
      match firstBlank? filters with
      | some kind => .error [⟨kind, [.name filtersName]⟩]
      | none => .ok filters
    | problems => .error problems
  | _ => .error [⟨.notMap, [.name filtersName]⟩]

def field {Result : Type} (entries : Entries) (name : Text) (usual : Result)
    (read : Value → Except (List Problem) Result) : Except (List Problem) Result :=
  match entries.find? fun entry => entry.1 = .text name with
  | some (_, value) => read value
  | none => .ok usual

def single {Result : Type} (name : Text) :
    Except ProblemKind Result → Except (List Problem) Result :=
  Except.mapError fun kind => [⟨kind, [.name name]⟩]

def keyProblem? : Key → Option Problem
  | .text name =>
    if name = ceilingName ∨ name = keywordsName ∨ name = filtersName then none
    else some ⟨.unknownName, [.name name]⟩
  | key => some ⟨.keyNotText, [key.pathStep]⟩

def problemsOf {Result : Type} : Except (List Problem) Result → List Problem
  | .ok _ => []
  | .error problems => problems

def validate : Value → Except (List Problem) Settings
  | .map entries =>
    let ceiling := field entries ceilingName none fun value => single ceilingName (ceilingOf value)
    let keywords :=
      field entries keywordsName true fun value => single keywordsName (keywordsOf value)
    let filters := field entries filtersName [] filtersOf
    let unknown := entries.filterMap fun entry => keyProblem? entry.1
    match ceiling, keywords, filters, unknown with
    | .ok ceiling, .ok keywords, .ok filters, [] => .ok { ceiling, keywords, filters }
    | _, _, _, _ =>
      .error (problemsOf ceiling ++ problemsOf keywords ++ problemsOf filters ++ unknown)
  | _ => .error [⟨.notSettings, []⟩]

end EventFilter.Settings
