/-!
Texts, the white space in them, and integers as texts.

A text is a list of characters, so lengths and offsets count characters. `isBlank` is the class
of characters that may stand between the tokens of an expression.
-/

namespace EventFilter

abbrev Text := List Char

namespace Text

def inRanges (ranges : List (Nat × Nat)) (code : Nat) : Bool :=
  ranges.any fun range => range.1 ≤ code && code ≤ range.2

def blankRanges : List (Nat × Nat) := [
  (0x9, 0xd), (0x1c, 0x20), (0x85, 0x85), (0xa0, 0xa0), (0x1680, 0x1680), (0x2000, 0x200a),
  (0x2028, 0x2029), (0x202f, 0x202f), (0x205f, 0x205f), (0x3000, 0x3000)]

def isBlank (character : Char) : Bool :=
  inRanges blankRanges character.toNat

/-- The information separators U+001C to U+001F are blank, but no part of a numeral's margin. -/
def isInformationSeparator (character : Char) : Bool :=
  0x1c ≤ character.toNat && character.toNat ≤ 0x1f

def isWhiteSpace (character : Char) : Bool :=
  isBlank character && !isInformationSeparator character

def allBlank (text : Text) : Bool :=
  text.all isBlank

def stripWhere (isMargin : Char → Bool) (text : Text) : Text :=
  ((text.dropWhile isMargin).reverse.dropWhile isMargin).reverse

def dropLineFeed (text : Text) : Text :=
  if text.getLast? = some '\n' then text.dropLast else text

def strip (text : Text) : Text :=
  stripWhere isBlank text

def isAsciiDigit (character : Char) : Bool :=
  '0' ≤ character && character ≤ '9'

def isPositiveDigit (character : Char) : Bool :=
  '1' ≤ character && character ≤ '9'

def digitsToNat (digits : Text) : Nat :=
  digits.foldl (fun value digit => 10 * value + (digit.toNat - 48)) 0

def digitCeiling : Nat := 4300

/-- The digits of an integer, of which there can be too many for a text. -/
def decimal (value : Int) : Text :=
  if value < 0 then '-' :: Nat.toDigits 10 value.natAbs else Nat.toDigits 10 value.natAbs

def isWritable (value : Int) : Bool :=
  (Nat.toDigits 10 value.natAbs).length ≤ digitCeiling

/-- No expression is so long that an offset in it, or a number of its tokens, is not writable. -/
def isWritableIn (expression : Text) (value : Int) : Bool :=
  (0 ≤ value && value ≤ expression.length) || isWritable value

def joinWith (separator : Text) : List Text → Text
  | [] => []
  | [piece] => piece
  | piece :: rest => piece ++ separator ++ joinWith separator rest

end Text

end EventFilter
