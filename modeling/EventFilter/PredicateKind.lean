import EventFilter.Predicate

/-!
Kinds of predicates that filters can be built from.

A kind says which texts are predicates, where the longest one at the beginning of a text ends, and
how a predicate is tested. Tests run in a monad, so that a kind can keep a record of them.
-/

namespace EventFilter

structure PredicateKind (Effect : Type → Type) (Item : Type) where
  isValid : Text → Bool
  longest? : Text → Option Nat
  build : Text → Except Fault Item
  testProperties : Item → PropertyMap → Value → Effect Bool
  testEvent : Item → Event → Effect Bool
  text : Item → Text

namespace PredicateKind

def searchFrom (isValid : Text → Bool) (text : Text) : Nat → Option Nat
  | 0 => none
  | length + 1 =>
    if isValid (text.take (length + 1)) then some (length + 1)
    else searchFrom isValid text length

def search (isValid : Text → Bool) (text : Text) : Option Nat :=
  searchFrom isValid text text.length

def standard : PredicateKind (Except Fault) Predicate where
  isValid := Predicate.isValid
  longest? := PredicateParts.scan
  build := Predicate.build
  testProperties := Predicate.testProperties
  testEvent := Predicate.testEvent
  text := Predicate.text

def searched : PredicateKind (Except Fault) Predicate :=
  { standard with longest? := search Predicate.isValid }

end PredicateKind

/-- A flag by name, which is satisfied by a property of exactly this name with the text `yes`. -/
structure Marker where
  text : Text
deriving DecidableEq

namespace Marker

abbrev Calls := Text → Nat

abbrev Counted := StateT Calls (Except Fault)

def hasDoubled (mark : Char) : Text → Bool
  | first :: second :: rest =>
    (first == mark && second == mark) || hasDoubled mark (second :: rest)
  | _ => false

def startsOperator : Text → Bool
  | first :: _ => first == '!' || first == '(' || first == ')'
  | [] => false

def isValid (text : Text) : Bool :=
  !text.isEmpty && !text.any Text.isBlank && !hasDoubled '&' text && !hasDoubled '|' text &&
    !startsOperator text

def holds (marker : Marker) (properties : PropertyMap) : Bool :=
  match properties.get? marker.text with
  | some (.text value) => value == ['y', 'e', 's']
  | _ => false

def countCall (marker : Marker) (calls : Calls) : Calls := fun text =>
  if text = marker.text then calls text + 1 else calls text

def testProperties (marker : Marker) (properties : PropertyMap) (_ : Value) : Counted Bool := do
  modify marker.countCall
  pure (marker.holds properties)

def testEvent (marker : Marker) (event : Event) : Counted Bool :=
  marker.testProperties event.payload event.name

end Marker

def PredicateKind.markers : PredicateKind Marker.Counted Marker where
  isValid := Marker.isValid
  longest? := PredicateKind.search Marker.isValid
  build text := .ok ⟨text⟩
  testProperties := Marker.testProperties
  testEvent := Marker.testEvent
  text := Marker.text

end EventFilter
