import EventFilter.Settings.Problem

/-!
Integers and flags that settings give as texts.

An integer has plain digits, of which only zero may begin with a zero, and possibly a minus sign.
A text that is no such integer is read once more without the white space around it, a plus sign,
zeros in front of the other digits, a fraction of zeros, and the underscores between digits.
-/

namespace EventFilter.WrittenForm

def plainNatural (text : Text) : Except ProblemKind Nat :=
  if text = ['0'] then .ok 0
  else if !text.head?.any Text.isPositiveDigit then .error .notIntegerText
  else if Text.digitCeiling < (text.takeWhile Text.isAsciiDigit).length then .error .integerTooLong
  else if text.all Text.isAsciiDigit then .ok (Text.digitsToNat text)
  else .error .notIntegerText

def plainInteger : Text → Except ProblemKind Int
  | '-' :: digits => do pure (-(← plainNatural digits : Int))
  | digits => do pure (← plainNatural digits)

/-! What may be left out of the written form of an integer. -/

def withoutPlus? : Text → Option Text
  | '+' :: '-' :: _ => none
  | '+' :: rest => some rest
  | text => some text

/-- Zeros in front, also with underscores after the first one. A minus sign may follow them, and
the last of them stays where only a fraction or nothing follows. -/
def withoutLeadingZeros? : Text → Option Text
  | [] => none
  | '0' :: rest =>
    let zeros := '0' :: rest.takeWhile fun character => character == '0' || character == '_'
    match rest.dropWhile fun character => character == '0' || character == '_' with
    | [] => zeros.getLast?.map fun last => [last]
    | '.' :: fraction => zeros.getLast?.map fun last => last :: '.' :: fraction
    | first :: following =>
      if Text.isPositiveDigit first || first == '-' then some (first :: following) else none
  | first :: rest => if Text.isPositiveDigit first then some (first :: rest) else none

def withoutFraction (text : Text) : Text :=
  match text.dropWhile (· != '.') with
  | _ :: zero :: zeros =>
    if (zero :: zeros).all (· == '0') then text.takeWhile (· != '.') else text
  | _ => text

def hasDoubleUnderscore : Text → Bool
  | '_' :: '_' :: _ => true
  | _ :: rest => hasDoubleUnderscore rest
  | [] => false

/-- Underscores are left out only if each has another character on both sides. -/
def withoutUnderscores (text : Text) : Text :=
  if text.head? = some '_' ∨ text.getLast? = some '_' ∨ hasDoubleUnderscore text then text
  else text.filter (· != '_')

def tidyUnsigned? (text : Text) : Option Text :=
  (withoutLeadingZeros? text).map fun digits => withoutUnderscores (withoutFraction digits)

/-- The plain form of an integer. What may be left out after a minus sign is the same as without
one. -/
def tidy? (text : Text) : Option Text := do
  match ← withoutPlus? (Text.stripWhere Text.isWhiteSpace text) with
  | '-' :: unsigned => (tidyUnsigned? unsigned).map ('-' :: ·)
  | unsigned => tidyUnsigned? unsigned

def integer (text : Text) : Except ProblemKind Int :=
  match plainInteger text with
  | .error .notIntegerText =>
    match tidy? text with
    | some plain => plainInteger plain
    | none => .error .notIntegerText
  | outcome => outcome

/-! Flags. -/

def trueWords : List String := ["1", "on", "t", "true", "y", "yes"]

def falseWords : List String := ["0", "off", "f", "false", "n", "no"]

def flag? (text : Text) : Option Bool :=
  let word := String.ofList (text.map Char.toLower)
  if trueWords.contains word then some true
  else if falseWords.contains word then some false
  else none

end EventFilter.WrittenForm
