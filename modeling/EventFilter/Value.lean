import EventFilter.Text.Quoted
import EventFilter.Number.Shortest

/-!
Property values and settings values.

A map keeps its entries in the order in which their keys were first given. Keys are compared as
scalars, where flags count as the integers zero and one.
-/

namespace EventFilter

inductive OtherType where
  | date
  | moment
  | octets
deriving DecidableEq

def OtherType.name : OtherType → String
  | date => "date"
  | moment => "datetime"
  | octets => "bytes"

inductive Key where
  | null
  | flag (isSet : Bool)
  | integer (value : Int)
  | real (value : Binary64)
  | text (value : Text)
  | other (type : OtherType) (literal : Text)
deriving DecidableEq

inductive Value where
  | null
  | flag (isSet : Bool)
  | integer (value : Int)
  | real (value : Binary64)
  | text (value : Text)
  | other (type : OtherType) (literal : Text)
  | list (items : List Value)
  | map (entries : List (Key × Value))

/-- The entries of a map in the order in which their keys were first given. -/
abbrev Entries := List (Key × Value)

namespace Value

def nullText : Text := "None".toList

def flagText (isSet : Bool) : Text :=
  if isSet then "True".toList else "False".toList

end Value

namespace Key

def literal : Key → Text
  | null => Value.nullText
  | flag isSet => Value.flagText isSet
  | integer value => Text.decimal value
  | real value => value.text
  | text value => Text.quote value
  | other _ literal => literal

def isWritable : Key → Bool
  | integer value => Text.isWritable value
  | _ => true

def typeName : Key → String
  | null => "NoneType"
  | flag _ => "bool"
  | integer _ => "int"
  | real _ => "float"
  | text _ => "str"
  | other type _ => type.name

def units? : Key → Option Int
  | flag isSet => some (if isSet then Binary64.unitsOfOne else 0)
  | integer value => some (value * Binary64.unitsOfOne)
  | real value => value.quantity?.map Quantity.units
  | _ => none

def same (left right : Key) : Bool :=
  match left.units?, right.units? with
  | some leftUnits, some rightUnits => leftUnits == rightUnits
  | none, none => left == right
  | _, _ => false

end Key

namespace Value

def ofKey : Key → Value
  | .null => null
  | .flag isSet => flag isSet
  | .integer value => integer value
  | .real value => real value
  | .text value => text value
  | .other type literal => other type literal

def key? : Value → Option Key
  | null => some .null
  | flag isSet => some (.flag isSet)
  | integer value => some (.integer value)
  | real value => some (.real value)
  | text value => some (.text value)
  | other type literal => some (.other type literal)
  | list _ => none
  | map _ => none

def typeName : Value → String
  | null => "NoneType"
  | flag _ => "bool"
  | integer _ => "int"
  | real _ => "float"
  | text _ => "str"
  | other type _ => type.name
  | list _ => "list"
  | map _ => "dict"

mutual

def literal : Value → Text
  | null => nullText
  | flag isSet => flagText isSet
  | integer value => Text.decimal value
  | real value => value.text
  | text value => Text.quote value
  | other _ literal => literal
  | list items => '[' :: Text.joinWith [',', ' '] (itemLiterals items) ++ [']']
  | map entries => '\x7b' :: Text.joinWith [',', ' '] (entryLiterals entries) ++ ['\x7d']

def itemLiterals : List Value → List Text
  | [] => []
  | item :: rest => literal item :: itemLiterals rest

def entryLiterals : List (Key × Value) → List Text
  | [] => []
  | (key, value) :: rest => (key.literal ++ ':' :: ' ' :: literal value) :: entryLiterals rest

end

mutual

/-- No integer in the value has too many digits for its text. -/
def isWritable : Value → Bool
  | integer value => Text.isWritable value
  | list items => areWritable items
  | map entries => areWritableEntries entries
  | null | flag _ | real _ | text _ | other _ _ => true

def areWritable : List Value → Bool
  | [] => true
  | item :: rest => isWritable item && areWritable rest

def areWritableEntries : List (Key × Value) → Bool
  | [] => true
  | (key, value) :: rest => key.isWritable && isWritable value && areWritableEntries rest

end

/-- The text that a value is compared as: texts stand for themselves. -/
def display : Value → Text
  | text value => value
  | value => literal value

end Value

namespace Entries

def set (entries : Entries) (key : Key) (value : Value) : Entries :=
  match entries with
  | [] => [(key, value)]
  | (present, old) :: rest =>
    if present.same key then (present, value) :: rest
    else (present, old) :: set rest key value

def ofList (pairs : List (Key × Value)) : Entries :=
  pairs.foldl (fun entries pair => set entries pair.1 pair.2) []

end Entries

end EventFilter
