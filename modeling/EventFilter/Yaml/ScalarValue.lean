import EventFilter.Value
import EventFilter.Yaml.Kind
import EventFilter.Yaml.Octets

/-!
The values of YAML scalars.

A scalar has the value of its text as one of its type, which a tag can give to any text.
-/

namespace EventFilter.Yaml.ScalarValue

/-! Flags. -/

def flag (text : Text) : Except Fault Bool :=
  let word := text.map Char.toLower
  if Kind.isForm ["yes", "true", "on"] word then .ok true
  else if Kind.isForm ["no", "false", "off"] word then .ok false
  else .error (.notFlag word)

/-! Integers. -/

def withoutUnderscores (text : Text) : Text :=
  text.filter (· != '_')

def digitValue? (base : Nat) (character : Char) : Option Nat :=
  (Text.digitValue? character <|> Scalar.hexDigit? character).filter (· < base)

def baseMarks : List (Nat × Char) := [(2, 'b'), (8, 'o'), (16, 'x')]

def withoutMark (base : Nat) (digits : Text) : Text :=
  match digits with
  | '0' :: mark :: rest => if baseMarks.lookup base = some mark.toLower then rest else digits
  | _ => digits

def digitsToNat (base : Nat) (digits : Text) : Nat :=
  digits.foldl (fun value digit => base * value + (digitValue? base digit).getD 0) 0

def signed (negative : Bool) (magnitude : Int) : Int :=
  if negative then -magnitude else magnitude

/-- An integer to a base, with white space around it, a sign, and a mark of the base allowed. Only
the base ten has a limit to the number of digits. -/
def integerToBase (base : Nat) (text : Text) : Except Fault Int :=
  let (negative, unsigned) := Numeral.splitSign (Text.stripWhere Text.isWhiteSpace text)
  let digits := withoutMark base unsigned
  let run := digits.takeWhile fun digit => (digitValue? base digit).isSome
  if base = 10 ∧ Text.digitCeiling < run.length then .error (.integerTooLong run.length)
  else if digits.isEmpty ∨ run.length < digits.length then .error (.notInteger base text)
  else .ok (signed negative (digitsToNat base digits))

def unsignedInteger (text : Text) : Except Fault Int :=
  match text with
  | [] => .error .emptyNumber
  | ['0'] => .ok 0
  | '0' :: 'b' :: digits => integerToBase 2 digits
  | '0' :: 'x' :: digits => integerToBase 16 digits
  | '0' :: _ => integerToBase 8 text
  | _ => do
    let parts ← (Kind.splitAtColons text).mapM (integerToBase 10)
    pure (parts.foldl (fun value part => 60 * value + part) 0)

def integer (text : Text) : Except Fault Int := do
  let (negative, unsigned) := Numeral.splitSign (withoutUnderscores text)
  pure (signed negative (← unsignedInteger unsigned))

/-! Real numbers. -/

def numeral (text : Text) : Except Fault Numeral :=
  match Numeral.read? (Text.stripWhere Text.isWhiteSpace text) with
  | some numeral => .ok numeral
  | none => .error (.notReal text)

/-- The magnitude of a number to the base sixty: from its last part on, every product with a power
of sixty is rounded, and so is every sum. -/
def sexagesimalUnits? (parts : List Numeral) : Option Nat :=
  let add (part : Numeral) (sum : Option Nat × Nat) : Option Nat × Nat :=
    let following := do
      let product ← Binary64.units? ((← part.units?) * sum.2) Binary64.unitsOfOne
      Binary64.units? ((← sum.1) + product) Binary64.unitsOfOne
    (following, 60 * sum.2)
  (parts.foldr add (some 0, 1)).1

def unsignedReal (negative : Bool) (text : Text) : Except Fault Binary64 :=
  let word := Text.stripWhere Text.isWhiteSpace text
  if Kind.isForm [".inf"] text || Kind.isForm ["inf", "infinity"] word then
    .ok (.infinite negative)
  else if Kind.isForm [".nan"] text || Kind.isForm ["nan"] word then .ok .nan
  else do
    let parts ← (Kind.splitAtColons text).mapM numeral
    match parts with
    | [single] => pure ({ single with negative := single.negative != negative } : Numeral).round
    | _ => pure (Binary64.ofUnits? negative (sexagesimalUnits? parts))

def real (text : Text) : Except Fault Binary64 :=
  match (withoutUnderscores text).map Char.toLower with
  | [] => .error .emptyNumber
  | written =>
    let (negative, unsigned) := Numeral.splitSign written
    unsignedReal negative unsigned

/-! Other scalars. -/

def moment (text : Text) : Except Fault Key := do
  let moment ← Moment.ofText text
  pure (.other moment.otherType moment.literal)

def octets (text : Text) : Except Fault Key := do
  let octets ← orMalformed (Octets.decode? text)
  match Octets.text? octets with
  | some text => pure (.text text)
  | none => pure (.other .octets (Octets.literal octets))

def ofText (kind : Kind) (text : Text) : Except Fault Key :=
  match kind with
  | .null => .ok .null
  | .flag => Key.flag <$> flag text
  | .integer => Key.integer <$> integer text
  | .real => Key.real <$> real text
  | .text => .ok (.text text)
  | .moment => moment text
  | .octets => octets text
  | _ => .error .malformed

end EventFilter.Yaml.ScalarValue
