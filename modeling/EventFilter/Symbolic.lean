import EventFilter.Span

/-!
Expressions over numbered predicates.

The distinct predicate texts of an expression are numbered in the order in which they are first
seen; the tokens of a `Symbolic` expression refer to them by number.
-/

namespace EventFilter

structure Placed where
  token : Token
  position : Nat
deriving DecidableEq

structure Symbolic (Item : Type) where
  placed : List Placed
  items : List (Text × Item)

namespace Symbolic

variable {Effect : Type → Type} {Item : Type}

def tokens (symbolic : Symbolic Item) : List Token :=
  symbolic.placed.map Placed.token

def positions (symbolic : Symbolic Item) : List Nat :=
  symbolic.placed.map Placed.position

structure Numbering (Effect : Type → Type) (Item : Type) where
  kind : PredicateKind Effect Item
  ceiling : Option Int

def Numbering.ceilingReached? (numbering : Numbering Effect Item) (count : Nat) : Option Int :=
  numbering.ceiling.filter fun ceiling => ceiling ≤ count

def fail {Result : Type} (expression : Text) (reason : ParsingReason) (position : Nat) :
    Except Fault Result :=
  .error (reason.fault expression position)

def number (numbering : Numbering Effect Item) (expression : Text) (known : List (Text × Item))
    (position : Nat) (text : Text) : Except Fault (Nat × List (Text × Item)) :=
  match known.findIdx? fun item => item.1 = text with
  | some index => .ok (index, known)
  | none =>
    match numbering.ceilingReached? known.length with
    | some ceiling => fail expression (.tooManyPredicates ceiling) position
    | none => do
      let item ← numbering.kind.build text
      pure (known.length, known ++ [(text, item)])

def token (numbering : Numbering Effect Item) (expression : Text) (known : List (Text × Item))
    (span : Span) : Except Fault (Token × List (Text × Item)) :=
  match span.lexeme with
  | .connective operator => .ok (.connective operator, known)
  | .openGroup => .ok (.openGroup, known)
  | .closeGroup => .ok (.closeGroup, known)
  | .predicate => do
    let (index, known) ← number numbering expression known span.start span.text
    pure (.symbol index, known)

def ofSpansFrom (numbering : Numbering Effect Item) (expression : Text)
    (known : List (Text × Item)) : List Span → Except Fault (Symbolic Item)
  | [] => .ok ⟨[], known⟩
  | span :: rest => do
    let (token, known) ← token numbering expression known span
    let following ← ofSpansFrom numbering expression known rest
    pure ⟨⟨token, span.start⟩ :: following.placed, following.items⟩

theorem ofSpansFrom_append (numbering : Numbering Effect Item) (expression : Text)
    (known : List (Text × Item)) (first second : List Span) :
    ofSpansFrom numbering expression known (first ++ second) = (do
      let before ← ofSpansFrom numbering expression known first
      let after ← ofSpansFrom numbering expression before.items second
      pure ⟨before.placed ++ after.placed, after.items⟩) := by
  induction first generalizing known with
  | nil =>
    simp only [List.nil_append, ofSpansFrom, bind, Except.bind]
    cases ofSpansFrom numbering expression known second <;> rfl
  | cons span rest ih =>
    simp only [List.cons_append, ofSpansFrom, bind, Except.bind]
    cases token numbering expression known span with
    | error fault => rfl
    | ok found =>
      simp only [ih, bind, Except.bind]
      cases ofSpansFrom numbering expression found.2 rest with
      | error fault => rfl
      | ok before =>
        simp only [pure, Except.pure]
        cases ofSpansFrom numbering expression before.items second <;> rfl

/-- The first fault in reading order is reported: predicates are built before a later place where
no token can be recognised comes to bear. -/
def ofText (numbering : Numbering Effect Item) (keywords : Bool) (expression : Text) :
    Except Fault (Symbolic Item) := do
  let found := Spans.ofText numbering.kind keywords expression
  let symbolic ← ofSpansFrom numbering expression [] found.spans
  match found.unrecognised with
  | some position => fail expression .unrecognisedToken position
  | none => pure symbolic

end Symbolic

end EventFilter
