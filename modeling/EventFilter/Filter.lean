import EventFilter.Postorder
import EventFilter.Settings.Basic

/-!
Filters: expressions compiled once and then tested against any number of events.
-/

namespace EventFilter

/-- A filter that is one predicate is tested directly; any other is a formula in post-order over
its distinct predicates. -/
inductive FilterForm (Item : Type) where
  | single (item : Item)
  | compound (items : List (Text × Item)) (tokens : List Token)

structure Filter (Item : Type) where
  source : Text
  form : FilterForm Item

namespace Filter

variable {Effect : Type → Type} {Item : Type}

def isSimple (kind : PredicateKind Effect Item) (expression : Text) : Bool :=
  kind.isValid expression && (!expression.contains '(' || expression.contains ')')

def blameExpression (expression : Text) : Fault → Fault
  | .evaluation fault =>
    .parsing { reason := .notPostorder fault.reason, expression := some expression }
  | fault => fault

def compile (kind : PredicateKind Effect Item) (settings : Settings) (expression : Text) :
    Except Fault (FilterForm Item) :=
  if isSimple kind expression then do
    pure (.single (← kind.build expression))
  else do
    let symbolic ← Symbolic.ofText ⟨kind, settings.ceiling⟩ settings.keywords expression
    let tokens ← Postorder.ofPlaced expression symbolic.placed
    (Postorder.check tokens).mapError (blameExpression expression)
    pure (.compound symbolic.items tokens)

def build (kind : PredicateKind Effect Item) (settings : Settings) (expression : Text) :
    Except Fault (Filter Item) :=
  if expression.isEmpty then
    .error (.parsing { reason := .emptyExpression, expression := some expression })
  else do
    pure ⟨expression, ← compile kind settings expression⟩

def ofValue (kind : PredicateKind Effect Item) (settings : Settings) (value : Value) :
    Except Fault (Filter Item) :=
  match value with
  | .text expression => build kind settings expression
  | .null => .error (.parsing { reason := .emptyExpression, expression := none })
  | value => .error (.parsing { reason := .notText value.typeName, expression := none })

def items (filter : Filter Item) : List Item :=
  match filter.form with
  | .single item => [item]
  | .compound items _ => items.map Prod.snd

def truthOf (answers : List Bool) (index : Int) : Option Bool :=
  if index < 0 then none else answers[index.toNat]?

/-- Every distinct predicate is tested once, whether the result depends on it or not. -/
def evaluate [Monad Effect] [MonadExceptOf Fault Effect] (kind : PredicateKind Effect Item)
    (items : List (Text × Item)) (tokens : List Token) (properties : PropertyMap)
    (eventName : Value) : Effect Bool := do
  let answers ← items.mapM fun item => kind.testProperties item.2 properties eventName
  MonadExcept.ofExcept (Postorder.evaluate (truthOf answers) tokens)

def testProperties [Monad Effect] [MonadExceptOf Fault Effect] (kind : PredicateKind Effect Item)
    (filter : Filter Item) (properties : PropertyMap) (eventName : Value) : Effect Bool :=
  match filter.form with
  | .single item => kind.testProperties item properties eventName
  | .compound items tokens => evaluate kind items tokens properties eventName

def testEvent [Monad Effect] [MonadExceptOf Fault Effect] (kind : PredicateKind Effect Item)
    (filter : Filter Item) (event : Event) : Effect Bool :=
  match filter.form with
  | .single item => kind.testEvent item event
  | .compound items tokens => evaluate kind items tokens event.properties event.name

def description (filter : Filter Item) : Text :=
  "ExpressionTree(".toList ++ Text.quote filter.source ++ [')']

end Filter

end EventFilter
