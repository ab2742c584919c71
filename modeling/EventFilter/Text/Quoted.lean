import EventFilter.Text.Basic
import EventFilter.Text.PrintableTable

/-!
Quoted texts, as they stand in messages and inside lists and maps.

A text is quoted by single quotes, or by double quotes if it holds a single quote and no double
one. The backslash, the quote in use and what is not printable are escaped.
-/

namespace EventFilter.Text

def isPrintable (character : Char) : Bool :=
  (printableBounds.takeWhile (· ≤ character.toNat)).length % 2 == 0

def hexadecimal (width code : Nat) : Text :=
  let digits := Nat.toDigits 16 code
  List.replicate (width - digits.length) '0' ++ digits

def escapeCode (code : Nat) : Text :=
  if code < 0x100 then '\\' :: 'x' :: hexadecimal 2 code
  else if code < 0x10000 then '\\' :: 'u' :: hexadecimal 4 code
  else '\\' :: 'U' :: hexadecimal 8 code

def escapeCharacter (mark character : Char) : Text :=
  if character = '\\' ∨ character = mark then ['\\', character]
  else if character = '\n' then ['\\', 'n']
  else if character = '\r' then ['\\', 'r']
  else if character = '\t' then ['\\', 't']
  else if isPrintable character then [character]
  else escapeCode character.toNat

def quoteMark (text : Text) : Char :=
  if '\'' ∈ text ∧ '"' ∉ text then '"' else '\''

def quote (text : Text) : Text :=
  quoteMark text :: text.flatMap (escapeCharacter (quoteMark text)) ++ [quoteMark text]

end EventFilter.Text
