import EventFilter.Value

/-!
Tokens of an expression whose predicates are numbered, and their texts.
-/

namespace EventFilter

inductive Connective where
  | not
  | and
  | or
deriving DecidableEq

/-- Any other text can stand among tokens that do not come from an expression. -/
inductive Token where
  | symbol (index : Int)
  | connective (operator : Connective)
  | openGroup
  | closeGroup
  | other (text : Text)
deriving DecidableEq

namespace Connective

def spelling : Connective → Text
  | not => ['!']
  | and => ['&', '&']
  | or => ['|', '|']

def keyword : Connective → Text
  | not => ['n', 'o', 't']
  | and => ['a', 'n', 'd']
  | or => ['o', 'r']

def precedence : Connective → Nat
  | not => 3
  | and => 2
  | or => 1

end Connective

namespace Token

def text : Token → Text
  | symbol index => Text.decimal index
  | connective operator => operator.spelling
  | openGroup => ['(']
  | closeGroup => [')']
  | other text => text

def symbol? : Token → Option Int
  | symbol index => some index
  | _ => none

def isWritable (token : Token) : Bool :=
  token.symbol?.all Text.isWritable

def ofText (text : Text) : Token :=
  match text with
  | ['!'] => connective .not
  | ['&', '&'] => connective .and
  | ['|', '|'] => connective .or
  | ['('] => openGroup
  | [')'] => closeGroup
  | text => other text

end Token

end EventFilter
