import EventFilter.Value

/-!
Problems of a value that is to be settings: the rule that is broken, and the place where.
-/

namespace EventFilter

inductive PathStep where
  | name (text : Text)
  | index (value : Int)
deriving DecidableEq

inductive ProblemKind where
  | notSettings
  | unknownName
  | keyNotText
  | belowOne
  | fractionalPart
  | notFinite
  | notIntegerText
  | integerTooLong
  | notInteger
  | notFlagValue
  | notFlag
  | notMap
  | notText
  | notUnicode
  | blankName
  | blankExpression (name : Text)
deriving DecidableEq

structure Problem where
  kind : ProblemKind
  path : List PathStep
deriving DecidableEq

namespace ProblemKind

def rule : ProblemKind → String
  | notSettings => "model_type"
  | unknownName => "extra_forbidden"
  | keyNotText => "invalid_key"
  | belowOne => "greater_than_equal"
  | fractionalPart => "int_from_float"
  | notFinite => "finite_number"
  | notIntegerText => "int_parsing"
  | integerTooLong => "int_parsing_size"
  | notInteger => "int_type"
  | notFlagValue => "bool_parsing"
  | notFlag => "bool_type"
  | notMap => "dict_type"
  | notText => "string_type"
  | notUnicode => "string_unicode"
  | blankName => "value_error"
  | blankExpression _ => "value_error"

def message : ProblemKind → String
  | notSettings => "Input should be a valid dictionary or instance of FilterSettings"
  | unknownName => "Extra inputs are not permitted"
  | keyNotText => "Keys should be strings"
  | belowOne => "Input should be greater than or equal to 1"
  | fractionalPart => "Input should be a valid integer, got a number with a fractional part"
  | notFinite => "Input should be a finite number"
  | notIntegerText =>
    "Input should be a valid integer, unable to parse string as an integer"
  | integerTooLong => "Unable to parse input string as an integer, exceeded maximum size"
  | notInteger => "Input should be a valid integer"
  | notFlagValue => "Input should be a valid boolean, unable to interpret input"
  | notFlag => "Input should be a valid boolean"
  | notMap => "Input should be a valid dictionary"
  | notText => "Input should be a valid string"
  | notUnicode =>
    "Input should be a valid string, unable to parse raw data as a unicode string"
  | blankName => "Value error, Filter names must not be empty"
  | blankExpression name =>
    "Value error, Filter '" ++ String.ofList name ++ "' has an empty expression"

end ProblemKind

def fitsWord (value : Int) : Bool :=
  -(Nat.pow 2 63 : Int) ≤ value && value < (Nat.pow 2 63 : Int)

/-- How a key appears in the path of a problem: texts and integers of 64 bits stand for
themselves, any other key for its written form. -/
def Key.pathStep : Key → PathStep
  | .text name => .name name
  | .integer value =>
    if fitsWord value then .index value
    else if Text.isWritable value then .name (Text.decimal value)
    else .name "<unprintable int object>".toList
  | .flag isSet => .index (if isSet then 1 else 0)
  | .null => .name Value.nullText
  | .real value => .name value.text
  | .other _ literal => .name literal

end EventFilter
