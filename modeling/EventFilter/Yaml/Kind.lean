import EventFilter.Number.Numeral
import EventFilter.Yaml.Moment
import EventFilter.Yaml.Scalar

/-!
The types of YAML nodes.

A plain scalar without a tag has the first type whose written forms include its text, and so has
any scalar with the tag `!`.
-/

namespace EventFilter.Yaml

inductive Kind where
  | null
  | flag
  | integer
  | real
  | text
  | moment
  | octets
  | merge
  | valueMark
  | sequence
  | mapping
  | set
  | pairs
  | unknown
deriving DecidableEq

namespace Kind

/-! Written forms of scalars. -/

def nullForms : List String := ["", "~", "null", "Null", "NULL"]

def trueForms : List String := ["yes", "Yes", "YES", "true", "True", "TRUE", "on", "On", "ON"]

def falseForms : List String := ["no", "No", "NO", "false", "False", "FALSE", "off", "Off", "OFF"]

def isForm (forms : List String) (text : Text) : Bool :=
  forms.contains (String.ofList text)

def isUnder (isDigit : Char → Bool) (character : Char) : Bool :=
  isDigit character || character == '_'

def isBinary (character : Char) : Bool :=
  character == '0' || character == '1'

def isOctal (character : Char) : Bool :=
  '0' ≤ character && character ≤ '7'

def isHexadecimal (character : Char) : Bool :=
  (Scalar.hexDigit? character).isSome

/-- A part of a number to the base sixty: one digit, or two of which the first is below six. -/
def isSexagesimalPart : Text → Bool
  | [digit] => Text.isAsciiDigit digit
  | [first, second] => '0' ≤ first && first ≤ '5' && Text.isAsciiDigit second
  | _ => false

def splitAtColons : Text → List Text
  | [] => [[]]
  | character :: rest =>
    if character == ':' then [] :: splitAtColons rest
    else
      match splitAtColons rest with
      | part :: parts => (character :: part) :: parts
      | [] => [[character]]

def nonempty (isDigit : Char → Bool) (digits : Text) : Bool :=
  !digits.isEmpty && digits.all (isUnder isDigit)

def isDecimalRun (isFirst : Char → Bool) : Text → Bool
  | first :: rest => isFirst first && rest.all (isUnder Text.isAsciiDigit)
  | [] => false

def isUnsignedInteger (text : Text) : Bool :=
  match text with
  | ['0'] => true
  | '0' :: 'b' :: digits => nonempty isBinary digits
  | '0' :: 'x' :: digits => nonempty isHexadecimal digits
  | '0' :: digits => nonempty isOctal digits
  | _ =>
    match splitAtColons text with
    | first :: parts => isDecimalRun Text.isPositiveDigit first && parts.all isSexagesimalPart
    | [] => false

def unsigned (text : Text) : Text :=
  (Numeral.splitSign text).2

def isPower : Text → Bool
  | [] => true
  | mark :: sign :: digits =>
    Numeral.isMarkOfExponent mark && (sign == '-' || sign == '+') && !digits.isEmpty &&
      digits.all Text.isAsciiDigit
  | _ => false

def splitAtPoint? (text : Text) : Option (Text × Text) :=
  match text.dropWhile (· != '.') with
  | [] => none
  | _ :: after => some (text.takeWhile (· != '.'), after)

def isInfinity (text : Text) : Bool :=
  isForm [".inf", ".Inf", ".INF"] text

def isNotANumber (text : Text) : Bool :=
  isForm [".nan", ".NaN", ".NAN"] text

def isReal (text : Text) : Bool :=
  isNotANumber text || isInfinity (unsigned text) ||
    match splitAtPoint? (unsigned text) with
    | none => false
    | some (whole, after) =>
      let power := after.dropWhile (isUnder Text.isAsciiDigit)
      match splitAtColons whole with
      | [[]] =>
        text.head? == some '.' && isPower power &&
          isDecimalRun Text.isAsciiDigit (after.takeWhile (isUnder Text.isAsciiDigit))
      | [single] => isDecimalRun Text.isAsciiDigit single && isPower power
      | first :: parts =>
        isDecimalRun Text.isAsciiDigit first && parts.all isSexagesimalPart && power.isEmpty
      | [] => false

def markForms : List String := ["!", "&", "*"]

def ofForm (text : Text) : Kind :=
  if isForm trueForms text || isForm falseForms text then flag
  else if isReal text then real
  else if isUnsignedInteger (unsigned text) then integer
  else if isForm ["<<"] text then merge
  else if isForm nullForms text then null
  else if Moment.isPlain text then moment
  else if isForm ["="] text then valueMark
  else if isForm markForms text then unknown
  else .text

/-- The type of a scalar by its text. A line feed at the end of a written form changes nothing. -/
def ofPlain (text : Text) : Kind :=
  if text = ['\n'] then .text else ofForm (Text.dropLineFeed text)

def ofName (name : Text) : Kind :=
  match "tag:yaml.org,2002:".toList.isPrefixOf? name with
  | none => unknown
  | some short =>
    match String.ofList short with
    | "null" => null
    | "bool" => flag
    | "int" => integer
    | "float" => real
    | "str" => .text
    | "timestamp" => moment
    | "binary" => octets
    | "merge" => merge
    | "value" => valueMark
    | "seq" => sequence
    | "map" => mapping
    | "set" => set
    | "omap" => pairs
    | "pairs" => pairs
    | _ => unknown

end Kind

end EventFilter.Yaml
