import EventFilter.Token

/-!
What can go wrong when a filter is compiled or applied, and the messages that say so.
-/

namespace EventFilter

inductive EvaluationReason where
  | noTruthValue (symbol : Int)
  | missingOperand (operator : Connective)
  | unexpectedToken (token : Token)
  | valuesLeft (count : Nat)
deriving DecidableEq

inductive ParsingReason where
  | emptyExpression
  | notText (typeName : String)
  | notOnePredicate
  | unrecognisedToken
  | tooManyPredicates (ceiling : Int)
  | missingOperatorBefore (token : Token)
  | missingOperandBefore (token : Token)
  | missingOperandAtEnd
  | unmatchedClose
  | unmatchedOpen
  | notPostorder (reason : EvaluationReason)
  | inFilter (name : Text) (reason : ParsingReason)
deriving DecidableEq

structure ParsingFault where
  reason : ParsingReason
  expression : Option Text
  position : Option Nat := none
deriving DecidableEq

/-- A token list that is no formula in post-order. -/
structure EvaluationFault where
  reason : EvaluationReason
  tokens : List Token
deriving DecidableEq

inductive Fault where
  | parsing (fault : ParsingFault)
  | evaluation (fault : EvaluationFault)
  | unknownOperator (text : Text)
  | unknownFilter (name : Key)
  | nameNotScalar (typeName : String)
  | integerTooLarge
  /-- An integer in a message or in a value has too many digits for a text. -/
  | tooManyDigits
  /-- A numeral has an information separator in its margin. -/
  | unreadableNumeral (text : Text)
  | keyWithoutCase (key : Key)
deriving DecidableEq

namespace EvaluationReason

def message : EvaluationReason → String
  | noTruthValue symbol => "No truth value for symbol " ++ String.ofList (Text.decimal symbol)
  | missingOperand .not => "Missing operand for NOT"
  | missingOperand operator => "Missing operand for " ++ String.ofList operator.spelling
  | unexpectedToken token => "Unexpected token " ++ String.ofList (Text.quote token.text)
  | valuesLeft count => "Expected one result, " ++ toString count ++ " left on the stack"

/-- The fault in a token list, which is given in the message. -/
def fault (reason : EvaluationReason) (tokens : List Token) : Fault :=
  if tokens.all Token.isWritable then .evaluation ⟨reason, tokens⟩ else .tooManyDigits

end EvaluationReason

namespace ParsingReason

def describe : Token → String
  | .symbol index => "predicate " ++ String.ofList (Text.decimal index)
  | token => "'" ++ String.ofList token.text ++ "'"

def message : ParsingReason → String
  | emptyExpression => "Expression is empty"
  | notText typeName => "Expected string expression, got " ++ typeName
  | notOnePredicate => "Not a single filter predicate"
  | unrecognisedToken => "Unrecognised token"
  | tooManyPredicates ceiling =>
    "More than " ++ String.ofList (Text.decimal ceiling) ++ " distinct predicates"
  | missingOperatorBefore token => "Missing operator before " ++ describe token
  | missingOperandBefore token => "Missing operand before " ++ describe token
  | missingOperandAtEnd => "Missing operand at end of expression"
  | unmatchedClose => "Unbalanced parentheses: unmatched ')'"
  | unmatchedOpen => "Unbalanced parentheses: unmatched '('"
  | notPostorder reason => reason.message
  | inFilter name reason => "Invalid filter '" ++ String.ofList name ++ "': " ++ reason.message

def integers : ParsingReason → List Int
  | tooManyPredicates ceiling => [ceiling]
  | missingOperatorBefore token | missingOperandBefore token => token.symbol?.toList
  | _ => []

/-- The fault at a position in an expression, which is given in the message. -/
def fault (reason : ParsingReason) (expression : Text) (position : Nat) : Fault :=
  if (reason.integers ++ [(position : Int)]).all (Text.isWritableIn expression) then
    .parsing { reason, expression := some expression, position := some position }
  else .tooManyDigits

end ParsingReason

def ParsingFault.message (fault : ParsingFault) : String :=
  let expression := match fault.expression with
    | some text => Text.quote text
    | none => Value.nullText
  let place := match fault.position with
    | some position => " at position " ++ toString position
    | none => ""
  fault.reason.message ++ " in expression " ++ String.ofList expression ++ place

def EvaluationFault.message (fault : EvaluationFault) : String :=
  let listed := Text.joinWith [' '] (fault.tokens.map Token.text)
  fault.reason.message ++ " (postfix: " ++ String.ofList listed ++ ")"

def Fault.message : Fault → String
  | parsing fault => fault.message
  | evaluation fault => fault.message
  | unknownOperator text => String.ofList (Text.quote text)
  | unknownFilter name => String.ofList name.literal
  | nameNotScalar typeName => "unhashable type: '" ++ typeName ++ "'"
  | integerTooLarge => "int too large to convert to float"
  | tooManyDigits =>
    "Exceeds the limit (" ++ toString Text.digitCeiling ++
      " digits) for integer string conversion; use sys.set_int_max_str_digits() to increase the " ++
      "limit"
  | unreadableNumeral text =>
    "could not convert string to float: " ++ String.ofList (Text.quote text)
  | keyWithoutCase key => "'" ++ key.typeName ++ "' object has no attribute 'casefold'"

end EventFilter
