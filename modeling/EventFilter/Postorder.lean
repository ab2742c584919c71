import EventFilter.Symbolic

/-!
Token lists in post-order: every connective stands after its operands.

`Postorder.ofPlaced` orders the tokens of an expression, with `!` binding tighter than `&&` and
`&&` tighter than `||`. `Postorder.check` says whether a list is a formula in post-order at all,
and `Postorder.evaluate` computes its truth value.
-/

namespace EventFilter

namespace Postorder

inductive Pending where
  | connective (operator : Connective)
  | group (position : Nat)
deriving DecidableEq

/-- The state between two tokens: the tokens put out so far, the last one first, and the pending
connectives and groups, the innermost first. -/
structure Progress where
  output : List Token
  pending : List Pending
  expectsOperand : Bool
deriving DecidableEq

namespace Pending

def isConnective : Pending → Bool
  | connective _ => true
  | group _ => false

/-- Whether a pending connective binds at least as tight as an incoming binary one, which then
takes its result as left operand. -/
def goesBefore (incoming : Connective) : Pending → Bool
  | connective waiting => incoming.precedence ≤ waiting.precedence
  | group _ => false

def token : Pending → Token
  | connective operator => .connective operator
  | group _ => .openGroup

def groupPosition? : Pending → Option Nat
  | connective _ => none
  | group position => some position

end Pending

namespace Progress

def start : Progress := ⟨[], [], true⟩

def release (progress : Progress) (isReleased : Pending → Bool) : Progress :=
  { progress with
    output := ((progress.pending.takeWhile isReleased).map Pending.token).reverse ++ progress.output
    pending := progress.pending.dropWhile isReleased }

def push (progress : Progress) (entry : Pending) : Progress :=
  { progress with pending := entry :: progress.pending, expectsOperand := true }

def closeGroup (expression : Text) (position : Nat) (progress : Progress) :
    Except Fault Progress :=
  let released := progress.release Pending.isConnective
  match released.pending with
  | [] => Symbolic.fail expression .unmatchedClose position
  | _ :: outer => .ok { released with pending := outer }

def startsOperand : Token → Bool
  | .symbol _ | .openGroup | .connective .not => true
  | _ => false

def take (expression : Text) (progress : Progress) (placed : Placed) : Except Fault Progress :=
  match placed.token with
  | .symbol _ =>
    .ok { progress with output := placed.token :: progress.output, expectsOperand := false }
  | .openGroup => .ok (progress.push (.group placed.position))
  | .closeGroup => progress.closeGroup expression placed.position
  | .connective .not => .ok (progress.push (.connective .not))
  | .connective operator =>
    .ok ((progress.release (Pending.goesBefore operator)).push (.connective operator))
  | .other text => .error (.unknownOperator text)

def step (expression : Text) (progress : Progress) (placed : Placed) : Except Fault Progress :=
  if startsOperand placed.token && !progress.expectsOperand then
    Symbolic.fail expression (.missingOperatorBefore placed.token) placed.position
  else if !startsOperand placed.token && progress.expectsOperand then
    Symbolic.fail expression (.missingOperandBefore placed.token) placed.position
  else progress.take expression placed

def finish (expression : Text) (progress : Progress) : Except Fault (List Token) :=
  if progress.expectsOperand then
    Symbolic.fail expression .missingOperandAtEnd expression.length
  else
    match progress.pending.findSome? Pending.groupPosition? with
    | some position => Symbolic.fail expression .unmatchedOpen position
    | none => .ok (progress.release Pending.isConnective).output.reverse

end Progress

def ofPlaced (expression : Text) (placed : List Placed) : Except Fault (List Token) := do
  let progress ← placed.foldlM (Progress.step expression) Progress.start
  progress.finish expression

def place (tokens : List Token) (positions : List Nat) : List Placed :=
  tokens.zipWith Placed.mk positions

def combine : Connective → Bool → Bool → Bool
  | .or, left, right => left || right
  | _, left, right => left && right

def evaluateStep (truth : Int → Option Bool) (stack : List Bool) :
    Token → Except EvaluationReason (List Bool)
  | .symbol index =>
    match truth index with
    | some value => .ok (value :: stack)
    | none => .error (.noTruthValue index)
  | .connective .not =>
    match stack with
    | value :: rest => .ok ((!value) :: rest)
    | [] => .error (.missingOperand .not)
  | .connective operator =>
    match stack with
    | right :: left :: rest => .ok (combine operator left right :: rest)
    | _ => .error (.missingOperand operator)
  | token => .error (.unexpectedToken token)

def evaluateFrom (truth : Int → Option Bool) (stack : List Bool) :
    List Token → Except EvaluationReason Bool
  | [] =>
    match stack with
    | [value] => .ok value
    | _ => .error (.valuesLeft stack.length)
  | token :: rest => do evaluateFrom truth (← evaluateStep truth stack token) rest

def evaluate (truth : Int → Option Bool) (tokens : List Token) : Except Fault Bool :=
  (evaluateFrom truth [] tokens).mapError fun reason => reason.fault tokens

def checkStep (depth : Nat) : Token → Except EvaluationReason Nat
  | .symbol _ => .ok (depth + 1)
  | .connective .not =>
    match depth with
    | 0 => .error (.missingOperand .not)
    | below + 1 => .ok (below + 1)
  | .connective operator =>
    match depth with
    | below + 2 => .ok (below + 1)
    | _ => .error (.missingOperand operator)
  | token => .error (.unexpectedToken token)

def checkFrom (depth : Nat) : List Token → Except EvaluationReason Unit
  | [] => if depth = 1 then .ok () else .error (.valuesLeft depth)
  | token :: rest => do checkFrom (← checkStep depth token) rest

def check (tokens : List Token) : Except Fault Unit :=
  (checkFrom 0 tokens).mapError fun reason => reason.fault tokens

end Postorder

end EventFilter
