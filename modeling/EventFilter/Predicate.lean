import EventFilter.Event
import EventFilter.Fault
import EventFilter.Predicate.Grammar
import EventFilter.Text.CaseFolding

/-!
Predicates on the properties of an event.

Two numbers are compared by value, anything else as text without regard to letter case. A
property that is missing or null satisfies no predicate.
-/

namespace EventFilter

def Value.quantity? : Value → Except Fault (Option Quantity)
  | .integer value =>
    match Binary64.quantityOfInt? value with
    | some quantity => .ok (some quantity)
    | none => .error .integerTooLarge
  | .real value => .ok value.quantity?
  | .text value =>
    match Numeral.read? (Text.strip value) with
    | none => .ok none
    | some numeral =>
      if value.any Text.isInformationSeparator then .error (.unreadableNumeral value)
      else .ok numeral.round.quantity?
  | _ => .ok none

structure Predicate where
  text : Text
  parts : PredicateParts
  quantity : Option Quantity
deriving DecidableEq

namespace Predicate

def isValid (text : Text) : Bool :=
  (PredicateParts.parse? text).isSome

def build (text : Text) : Except Fault Predicate :=
  match PredicateParts.parse? text with
  | none => .error (.parsing { reason := .notOnePredicate, expression := some text })
  | some parts => do
    let quantity ← Value.quantity? (.text parts.operand)
    pure ⟨text, parts, quantity⟩

def ofOption (text : Option Text) : Except Fault Predicate :=
  match text with
  | some text => build text
  | none => .error (.parsing { reason := .notOnePredicate, expression := none })

def eventNameProperty : Text := "EventName".toList

def lookupFolded (folded : Text) : PropertyMap → Except Fault Value
  | [] => .ok .null
  | (.text name, value) :: rest =>
    if Text.foldCase name = folded then .ok value else lookupFolded folded rest
  | (key, _) :: _ => .error (.keyWithoutCase key)

/-- The value under a name, or else under the first name that differs in letter case only. -/
def lookup (properties : PropertyMap) (name : Text) : Except Fault Value :=
  match properties.get? name with
  | some value => .ok value
  | none => lookupFolded (Text.foldCase name) properties

def compareAsText (predicate : Predicate) (actual : Value) : Except Fault Ordering :=
  if actual.isWritable then
    .ok (compare (Text.foldCase actual.display) (Text.foldCase predicate.parts.operand))
  else .error .tooManyDigits

def order (predicate : Predicate) (actual : Value) : Except Fault Ordering :=
  match predicate.quantity with
  | none => predicate.compareAsText actual
  | some expected => do
    match ← actual.quantity? with
    | some quantity => pure (quantity.compare expected)
    | none => predicate.compareAsText actual

def subject (predicate : Predicate) (properties : PropertyMap) (eventName : Value) :
    Except Fault Value :=
  if predicate.parts.property = eventNameProperty then .ok eventName
  else lookup properties predicate.parts.property

def testProperties (predicate : Predicate) (properties : PropertyMap) (eventName : Value) :
    Except Fault Bool := do
  match ← predicate.subject properties eventName with
  | .null => pure false
  | actual => pure (predicate.parts.comparison.holds (← predicate.order actual))

def testEvent (predicate : Predicate) (event : Event) : Except Fault Bool :=
  predicate.testProperties event.properties event.name

def description (predicate : Predicate) : Text :=
  "FilterQueryPredicate(".toList ++ Text.quote predicate.text ++ [')']

end Predicate

end EventFilter
