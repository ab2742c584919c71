import EventFilter.Text.Basic

/-!
Positions in a YAML text, and the classes of characters that its grammar speaks of.
-/

namespace EventFilter.Yaml

structure Cursor where
  rest : Text
  index : Nat
  line : Nat
  column : Nat

def byteOrderMark : Char := '\ufeff'

def isBreak (character : Char) : Bool :=
  character == '\n' || character == '\r' || character == '\x85' || character == '\u2028' ||
    character == '\u2029'

def isSpaceOrTab (character : Char) : Bool :=
  character == ' ' || character == '\t'

def endsLine : Option Char → Bool
  | none => true
  | some character => isBreak character

def endsWord : Option Char → Bool
  | none => true
  | some character => isBreak character || isSpaceOrTab character

def isFlowMark (character : Char) : Bool :=
  character == ',' || character == '[' || character == ']' || character == '\x7b' ||
    character == '\x7d'

def isNameCharacter (character : Char) : Bool :=
  character.isAlphanum || character == '-' || character == '_'

def allowedRanges : List (Nat × Nat) := [
  (0x9, 0xa), (0xd, 0xd), (0x20, 0x7e), (0x85, 0x85), (0xa0, 0xd7ff), (0xe000, 0xfffd),
  (0x10000, 0x10ffff)]

def isAllowed (character : Char) : Bool :=
  Text.inRanges allowedRanges character.toNat

namespace Cursor

def start (text : Text) : Cursor := ⟨text, 0, 0, 0⟩

def peek (cursor : Cursor) : Option Char :=
  cursor.rest.head?

def peekAt (cursor : Cursor) (distance : Nat) : Option Char :=
  (cursor.rest.drop distance).head?

/-- The position one character further on; a carriage return before a line feed ends no line. -/
def next (cursor : Cursor) : Cursor :=
  match cursor.rest with
  | [] => cursor
  | character :: rest =>
    if isBreak character && !(character == '\r' && rest.head? == some '\n') then
      ⟨rest, cursor.index + 1, cursor.line + 1, 0⟩
    else if character == byteOrderMark then ⟨rest, cursor.index + 1, cursor.line, cursor.column⟩
    else ⟨rest, cursor.index + 1, cursor.line, cursor.column + 1⟩

def advance (cursor : Cursor) : Nat → Cursor
  | 0 => cursor
  | distance + 1 => cursor.next.advance distance

def takeWhile (cursor : Cursor) (isTaken : Char → Bool) : Text × Cursor :=
  let taken := cursor.rest.takeWhile isTaken
  (taken, cursor.advance taken.length)

def skipWhile (cursor : Cursor) (isSkipped : Char → Bool) : Cursor :=
  (cursor.takeWhile isSkipped).2

def skipSpaces (cursor : Cursor) : Cursor :=
  cursor.skipWhile (· == ' ')

def skipIndentation (cursor : Cursor) (bound : Nat) : Cursor :=
  cursor.advance (min (bound - cursor.column) (cursor.rest.takeWhile (· == ' ')).length)

/-- A line break and the position after it: every break is a line feed but for the separators
of lines and paragraphs, which stand for themselves. No break is the empty text. -/
def lineBreak (cursor : Cursor) : Text × Cursor :=
  match cursor.rest with
  | '\r' :: '\n' :: _ => (['\n'], cursor.advance 2)
  | '\r' :: _ | '\n' :: _ | '\x85' :: _ => (['\n'], cursor.next)
  | '\u2028' :: _ => (['\u2028'], cursor.next)
  | '\u2029' :: _ => (['\u2029'], cursor.next)
  | _ => ([], cursor)

def atSeparator (cursor : Cursor) : Bool :=
  (cursor.rest.take 3 == ['-', '-', '-'] || cursor.rest.take 3 == ['.', '.', '.']) &&
    endsWord (cursor.peekAt 3)

def finishLine? (cursor : Cursor) : Option Cursor :=
  let cursor := cursor.skipSpaces
  let cursor := if cursor.peek == some '#' then cursor.skipWhile (!isBreak ·) else cursor
  if endsLine cursor.peek then some cursor.lineBreak.2 else none

end Cursor

end EventFilter.Yaml
