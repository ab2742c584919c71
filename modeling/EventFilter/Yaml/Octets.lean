import EventFilter.Text.Quoted

/-!
Octets in base 64, and their written form.
-/

namespace EventFilter.Yaml.Octets

def digit? (character : Char) : Option Nat :=
  if character.isUpper then some (character.toNat - 65)
  else if character.isLower then some (character.toNat - 71)
  else if character.isDigit then some (character.toNat + 4)
  else if character = '+' then some 62
  else if character = '/' then some 63
  else none

def ofGroup : List Nat → List Nat
  | [first, second] => [4 * first + second / 16]
  | [first, second, third] => [4 * first + second / 16, second % 16 * 16 + third / 4]
  | [first, second, third, fourth] =>
    [4 * first + second / 16, second % 16 * 16 + third / 4, third % 4 * 64 + fourth]
  | _ => []

/-- Reads on with the digits of an unfinished group and the number of padding marks behind them.
Padding that fills a group ends the octets, and any other character says nothing. -/
def decodeFrom? (group : List Nat) (padding : Nat) : Text → Option (List Nat)
  | [] => if group.isEmpty then some [] else none
  | character :: rest =>
    if character = '=' then
      if group.length < 2 then decodeFrom? group padding rest
      else if 4 ≤ group.length + padding + 1 then some (ofGroup group)
      else decodeFrom? group (padding + 1) rest
    else
      match digit? character with
      | none => decodeFrom? group padding rest
      | some digit =>
        if group.length = 3 then
          (decodeFrom? [] 0 rest).map (ofGroup (group ++ [digit]) ++ ·)
        else decodeFrom? (group ++ [digit]) 0 rest

def decode? (text : Text) : Option (List Nat) :=
  if text.all fun character => character.toNat < 0x80 then decodeFrom? [] 0 text else none

def text? (octets : List Nat) : Option Text :=
  (String.fromUTF8? ⟨(octets.map UInt8.ofNat).toArray⟩).map String.toList

def literal (octets : List Nat) : Text :=
  let characters := octets.map Char.ofNat
  let mark := Text.quoteMark characters
  let escaped := characters.flatMap fun character =>
    if character.toNat < 0x7f then Text.escapeCharacter mark character
    else Text.escapeCode character.toNat
  'b' :: mark :: escaped ++ [mark]

end EventFilter.Yaml.Octets
