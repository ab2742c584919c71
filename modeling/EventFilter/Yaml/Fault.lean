import EventFilter.Text.Quoted

/-!
What can be wrong with a YAML text.

Most faults are breaches of the grammar and have no message of their own. The others concern
characters, numbers and calendar dates that are written by the grammar and yet do not exist.
-/

namespace EventFilter.Yaml

inductive CalendarField where
  | year
  | month
  | day
  | hour
  | minute
  | second
deriving DecidableEq

inductive Fault where
  | malformed
  | noCharacter
  | notInteger (base : Nat) (text : Text)
  | integerTooLong (digitCount : Nat)
  | notReal (text : Text)
  | notFlag (text : Text)
  | emptyNumber
  | notMoment
  | outOfCalendar (field : CalendarField)
  /-- A time of day is a day or more away from universal time; the offset is given as written. -/
  | offsetTooLarge (offset : Text)
deriving DecidableEq

def CalendarField.message : CalendarField → String
  | year => "year 0 is out of range"
  | month => "month must be in 1..12"
  | day => "day is out of range for month"
  | hour => "hour must be in 0..23"
  | minute => "minute must be in 0..59"
  | second => "second must be in 0..59"

namespace Fault

def excerpt (text : Text) : String :=
  String.ofList ((Text.quote text).take 200)

def message? : Fault → Option String
  | malformed => none
  | noCharacter => some "chr() arg not in range(0x110000)"
  | notInteger base text =>
    some ("invalid literal for int() with base " ++ toString base ++ ": " ++ excerpt text)
  | integerTooLong digitCount =>
    some ("Exceeds the limit (" ++ toString Text.digitCeiling ++
      " digits) for integer string conversion: value has " ++ toString digitCount ++
      " digits; use sys.set_int_max_str_digits() to increase the limit")
  | notReal text => some ("could not convert string to float: " ++ String.ofList (Text.quote text))
  | notFlag text => some (String.ofList (Text.quote text))
  | emptyNumber => some "string index out of range"
  | notMoment => some "'NoneType' object has no attribute 'groupdict'"
  | outOfCalendar field => some field.message
  | offsetTooLarge offset =>
    some ("offset must be a timedelta strictly between -timedelta(hours=24) and " ++
      "timedelta(hours=24), not " ++ String.ofList offset ++ ".")

end Fault

def orMalformed {Result : Type} : Option Result → Except Fault Result
  | some result => .ok result
  | none => .error .malformed

end EventFilter.Yaml
