import EventFilter.Text.Basic

/-!
The grammar of predicates: a property name, a comparison operator and an operand, with optional
white space on both sides of the operator.

`parse?` reads a text that is a predicate as a whole. `scan` finds how far the longest predicate
at the beginning of a text reaches.
-/

namespace EventFilter

inductive Comparison where
  | equal
  | notEqual
  | atLeast
  | atMost
  | greater
  | less
deriving DecidableEq

namespace Comparison

def spelling : Comparison → Text
  | equal => ['=', '=']
  | notEqual => ['!', '=']
  | atLeast => ['>', '=']
  | atMost => ['<', '=']
  | greater => ['>']
  | less => ['<']

def holds : Comparison → Ordering → Bool
  | equal, order => order.isEq
  | notEqual, order => order.isNe
  | atLeast, order => order.isGE
  | atMost, order => order.isLE
  | greater, order => order.isGT
  | less, order => order.isLT

/-- The operators that a text can begin with, the longest first, and what follows each. -/
def readings : Text → List (Comparison × Text)
  | '=' :: '=' :: rest => [(equal, rest)]
  | '!' :: '=' :: rest => [(notEqual, rest)]
  | '>' :: '=' :: rest => [(atLeast, rest), (greater, '=' :: rest)]
  | '<' :: '=' :: rest => [(atMost, rest), (less, '=' :: rest)]
  | '>' :: rest => [(greater, rest)]
  | '<' :: rest => [(less, rest)]
  | _ => []

end Comparison

structure PredicateParts where
  property : Text
  comparison : Comparison
  operand : Text
deriving DecidableEq

namespace PredicateParts

def startsName (character : Char) : Bool :=
  character.isAlpha || character == '_'

def continuesName (character : Char) : Bool :=
  character.isAlphanum || character == '_' || character == '.' || character == ':' ||
    character == '-'

def splitName? : Text → Option (Text × Text)
  | [] => none
  | first :: rest =>
    if startsName first then
      some (first :: rest.takeWhile continuesName, rest.dropWhile continuesName)
    else none

def isBare (character : Char) : Bool :=
  !Text.isBlank character && character != '(' && character != ')' && character != '&' &&
    character != '|' && character != '"'

def isNotQuote (character : Char) : Bool :=
  character != '"'

def operandLength? : Text → Option Nat
  | '"' :: rest =>
    if (rest.dropWhile isNotQuote).isEmpty then none
    else some ((rest.takeWhile isNotQuote).length + 2)
  | text =>
    if (text.takeWhile isBare).isEmpty then none else some (text.takeWhile isBare).length

def wholeOperand? : Text → Option Text
  | '"' :: rest =>
    if rest.dropWhile isNotQuote = ['"'] then some (rest.takeWhile isNotQuote) else none
  | text => if !text.isEmpty && text.all isBare then some text else none

def parse? (text : Text) : Option PredicateParts := do
  let (name, afterName) ← splitName? text
  (Comparison.readings (afterName.dropWhile Text.isBlank)).findSome? fun (comparison, tail) =>
    (wholeOperand? (tail.dropWhile Text.isBlank)).map fun operand => ⟨name, comparison, operand⟩

def scan (text : Text) : Option Nat := do
  let (name, afterName) ← splitName? text
  let gap := afterName.takeWhile Text.isBlank
  (Comparison.readings (afterName.dropWhile Text.isBlank)).findSome? fun (comparison, tail) =>
    (operandLength? (tail.dropWhile Text.isBlank)).map fun length =>
      name.length + gap.length + comparison.spelling.length +
        (tail.takeWhile Text.isBlank).length + length

end PredicateParts

end EventFilter
