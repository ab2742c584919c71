import EventFilter.PredicateKind

/-!
The spans of an expression: where its operators, parentheses and predicates stand.

`Spans.ofText` goes through an expression once. At a character that is not blank it takes an
operator or a parenthesis if one stands there, otherwise the longest predicate.
-/

namespace EventFilter

inductive Lexeme where
  | connective (operator : Connective)
  | openGroup
  | closeGroup
  | predicate
deriving DecidableEq

structure Span where
  start : Nat
  lexeme : Lexeme
  text : Text
deriving DecidableEq

structure Spans where
  spans : List Span
  unrecognised : Option Nat
deriving DecidableEq

namespace Lexeme

def endsKeyword : Text → Bool
  | [] => true
  | next :: _ => Text.isBlank next || next == '(' || next == '!'

def beginsWithKeyword (lowerCase : Text) (text : Text) : Bool :=
  (text.take lowerCase.length).map Char.toLower == lowerCase &&
    endsKeyword (text.drop lowerCase.length)

def keyword? (text : Text) : Option (Lexeme × Nat) :=
  if beginsWithKeyword Connective.and.keyword text then some (connective .and, 3)
  else if beginsWithKeyword Connective.or.keyword text then some (connective .or, 2)
  else if beginsWithKeyword Connective.not.keyword text then some (connective .not, 3)
  else none

def operator? (keywords : Bool) : Text → Option (Lexeme × Nat)
  | '(' :: _ => some (openGroup, 1)
  | ')' :: _ => some (closeGroup, 1)
  | '&' :: '&' :: _ => some (connective .and, 2)
  | '|' :: '|' :: _ => some (connective .or, 2)
  | '!' :: _ => some (connective .not, 1)
  | text => if keywords then keyword? text else none

variable {Effect : Type → Type} {Item : Type}

/-- The lexeme at the beginning of a text and its length: operators go before predicates. -/
def first? (kind : PredicateKind Effect Item) (keywords : Bool) (text : Text) :
    Option (Lexeme × Nat) :=
  match operator? keywords text with
  | some found => some found
  | none => (kind.longest? text).map fun length => (predicate, length)

end Lexeme

namespace Spans

variable {Effect : Type → Type} {Item : Type}

def ofTextFrom (kind : PredicateKind Effect Item) (keywords : Bool) (offset : Nat) : Text → Spans
  | [] => ⟨[], none⟩
  | first :: rest =>
    if Text.isBlank first then ofTextFrom kind keywords (offset + 1) rest
    else
      match Lexeme.first? kind keywords (first :: rest) with
      | none => ⟨[], some offset⟩
      | some (lexeme, length) =>
        let following := ofTextFrom kind keywords (offset + length) (rest.drop (length - 1))
        ⟨⟨offset, lexeme, (first :: rest).take length⟩ :: following.spans, following.unrecognised⟩
termination_by text => text.length
decreasing_by all_goals simp only [List.length_cons, List.length_drop]; omega

def ofText (kind : PredicateKind Effect Item) (keywords : Bool) (text : Text) : Spans :=
  ofTextFrom kind keywords 0 text

end Spans

end EventFilter
