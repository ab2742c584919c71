import EventFilter.Filter

/-!
Filter sets: all the filters of some settings by name.
-/

namespace EventFilter

structure FilterSet (Item : Type) where
  filters : List (Text × Filter Item)

structure Selection (Source : Type) where
  chosen : List Source
  drawn : Nat
  fault : Option Fault

namespace Selection

variable {Effect : Type → Type} {Source : Type}

def nothing : Selection Source := ⟨[], 0, none⟩

def after (source : Source) (isChosen : Bool) (following : Selection Source) : Selection Source :=
  ⟨if isChosen then source :: following.chosen else following.chosen, following.drawn + 1,
    following.fault⟩

def outcome [Monad Effect] [MonadExceptOf Fault Effect] (test : Effect Bool) :
    Effect (Except Fault Bool) :=
  tryCatch (Except.ok <$> test) fun fault => pure (.error fault)

/-- Chooses the elements that pass a test, up to a limit, and looks at no element more. -/
def ofList [Monad Effect] [MonadExceptOf Fault Effect] (test : Source → Effect Bool) :
    Option Nat → List Source → Effect (Selection Source)
  | some 0, _ => pure nothing
  | _, [] => pure nothing
  | limit, source :: rest => do
    match ← outcome (test source) with
    | .error fault => pure ⟨[], 1, some fault⟩
    | .ok isChosen =>
      let limit := if isChosen then limit.map (· - 1) else limit
      let following ← ofList test limit rest
      pure (after source isChosen following)

end Selection

namespace FilterSet

variable {Effect : Type → Type} {Item : Type}

/-- A fault in the expression of a filter names the filter, any other fault stays as it is. -/
def nameFault (name expression : Text) : Fault → Fault
  | .parsing fault =>
    .parsing {
      reason := .inFilter name fault.reason
      expression := some expression
      position := fault.position }
  | fault => fault

def buildEntry (kind : PredicateKind Effect Item) (settings : Settings) (entry : Text × Text) :
    Except Fault (Text × Filter Item) := do
  let filter ← (Filter.build kind settings entry.2).mapError (nameFault entry.1 entry.2)
  pure (entry.1, filter)

def build (kind : PredicateKind Effect Item) (settings : Settings) :
    Except Fault (FilterSet Item) := do
  let filters ← settings.filters.mapM (buildEntry kind settings)
  pure ⟨filters⟩

def names (filterSet : FilterSet Item) : List Text :=
  filterSet.filters.map Prod.fst

def size (filterSet : FilterSet Item) : Nat :=
  filterSet.filters.length

def nameKey (name : Value) : Except Fault Key :=
  match name.key? with
  | some key => .ok key
  | none => .error (.nameNotScalar name.typeName)

def find? (filterSet : FilterSet Item) : Key → Option (Filter Item)
  | .text name => filterSet.filters.lookup name
  | _ => none

def contains (filterSet : FilterSet Item) (name : Value) : Except Fault Bool := do
  let key ← nameKey name
  pure (filterSet.find? key).isSome

def get (filterSet : FilterSet Item) (name : Value) : Except Fault (Filter Item) := do
  let key ← nameKey name
  match filterSet.find? key with
  | some filter => .ok filter
  | none => .error (.unknownFilter key)

def matching [Monad Effect] [MonadExceptOf Fault Effect] (kind : PredicateKind Effect Item)
    (filterSet : FilterSet Item) (event : Event) : Effect (List Text) := do
  let passed ← filterSet.filters.filterM fun entry => entry.2.testEvent kind event
  pure (passed.map Prod.fst)

def select [Monad Effect] [MonadExceptOf Fault Effect] {Source : Type}
    (kind : PredicateKind Effect Item) (filterSet : FilterSet Item) (name : Value)
    (event : Source → Event) (limit : Option Nat) (sources : List Source) :
    Effect (Selection Source) := do
  let filter ← MonadExcept.ofExcept (filterSet.get name)
  Selection.ofList (fun source => filter.testEvent kind (event source)) limit sources

end FilterSet

end EventFilter
