import EventFilter.Text.Basic
import EventFilter.Text.DecimalDigit
import EventFilter.Number.Binary64

/-!
Decimal numerals: an optional sign, digits of any script with an optional point, and an optional
exponent.

A numeral denotes the rational mantissa times ten to the exponent, and `Numeral.round` takes it to
the nearest binary64 number in one step.
-/

namespace EventFilter

structure Numeral where
  negative : Bool
  mantissa : Nat
  exponent : Int
deriving DecidableEq

namespace Numeral

def isMarkOfExponent (character : Char) : Bool :=
  character == 'e' || character == 'E'

def splitSign : Text → Bool × Text
  | '-' :: rest => (true, rest)
  | '+' :: rest => (false, rest)
  | rest => (false, rest)

def splitDigits (text : Text) : Text × Text :=
  (text.takeWhile Text.isDigit, text.dropWhile Text.isDigit)

def splitFraction : Text → Text × Text
  | '.' :: rest => splitDigits rest
  | rest => ([], rest)

def ofDigits (digits : Text) : Nat :=
  digits.foldl (fun value digit => 10 * value + (Text.digitValue? digit).getD 0) 0

def exponent? : Text → Option Int
  | [] => some 0
  | mark :: rest =>
    let (negative, digits) := splitSign rest
    if isMarkOfExponent mark && !digits.isEmpty && digits.all Text.isDigit then
      some (if negative then -(ofDigits digits : Int) else ofDigits digits)
    else none

def read? (text : Text) : Option Numeral :=
  let (negative, unsigned) := splitSign text
  let (whole, afterWhole) := splitDigits unsigned
  let (fraction, ending) := splitFraction afterWhole
  if whole.isEmpty && fraction.isEmpty then none
  else (exponent? ending).map fun exponent =>
    ⟨negative, ofDigits (whole ++ fraction), exponent - fraction.length⟩

/-- The nearest magnitude, or nothing if it is too large.

The first two cases only spare the powers of ten that no magnitude needs: a mantissa of `n` bits
is below ten to the `n`, and the least magnitude is above ten to the -330. -/
def units? (numeral : Numeral) : Option Nat :=
  if numeral.mantissa = 0 then some 0
  else if 400 < numeral.exponent then none
  else if numeral.exponent < -(numeral.mantissa.log2 + 400 : Int) then some 0
  else Binary64.units? (numeral.mantissa * Nat.pow 10 numeral.exponent.toNat)
    (Nat.pow 10 (-numeral.exponent).toNat)

def round (numeral : Numeral) : Binary64 :=
  Binary64.ofUnits? numeral.negative numeral.units?

end Numeral

end EventFilter
