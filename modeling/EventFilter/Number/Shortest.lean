import EventFilter.Number.Numeral

/-!
The shortest decimal text of a binary64 number.

Of the decimals that read back as the number, those with the fewest digits are taken, and of these
the nearest to the number, a tie going to the even last digit.
-/

namespace EventFilter

structure Decimal where
  count : Nat
  exponent : Int
deriving DecidableEq

namespace Decimal

def units? (decimal : Decimal) : Option Nat :=
  Numeral.units? ⟨false, decimal.count, decimal.exponent⟩

def digits (decimal : Decimal) : Text :=
  Nat.toDigits 10 decimal.count

def leadingExponent (decimal : Decimal) : Int :=
  decimal.exponent + decimal.digits.length - 1

def significantDigits (decimal : Decimal) : Text :=
  match (decimal.digits.reverse.dropWhile (· == '0')).reverse with
  | [] => ['0']
  | digits => digits

def neighbours (units : Nat) (exponent : Int) : List Decimal :=
  let numerator := units * Nat.pow 10 (-exponent).toNat
  let denominator := Binary64.unitsOfOne * Nat.pow 10 exponent.toNat
  let below := numerator / denominator
  let nearest := Binary64.divideHalfEven numerator denominator
  let other := if nearest = below then below + 1 else below
  [⟨nearest, exponent⟩, ⟨other, exponent⟩]

def firstExponent (units : Nat) : Int :=
  let whole := units / Binary64.unitsOfOne
  if whole = 0 then
    match (List.range 400).find? fun shift => Binary64.unitsOfOne ≤ units * Nat.pow 10 shift with
    | some shift => -(shift : Int)
    | none => -400
  else (Nat.toDigits 10 whole).length - 1

def shortestFrom (units : Nat) (first : Int) : List Nat → Decimal
  | [] => ⟨units, 0⟩
  | places :: rest =>
    match (neighbours units (first - places)).find? fun decimal => decimal.units? = some units with
    | some decimal => decimal
    | none => shortestFrom units first rest

/-- The shortest decimal of a magnitude: seventeen digits always suffice. -/
def shortest (units : Nat) : Decimal :=
  if units = 0 then ⟨0, 0⟩ else shortestFrom units (firstExponent units) (List.range 17)

/-- Where the point of a decimal is written: exponents from `positionalFrom` to below
`positionalBelow` are written without a power of ten, and a power of ten has at least
`exponentDigits` digits. -/
structure Layout where
  positionalFrom : Int
  positionalBelow : Int
  exponentDigits : Nat

def writeExponent (layout : Layout) (exponent : Int) : Text :=
  let digits := Nat.toDigits 10 exponent.natAbs
  'e' :: (if exponent < 0 then '-' else '+') ::
    (List.replicate (layout.exponentDigits - digits.length) '0' ++ digits)

def writePositional (digits : Text) (first : Int) : Text :=
  if first < 0 then '0' :: '.' :: (List.replicate (-first - 1).toNat '0' ++ digits)
  else
    let whole := digits.take (first.toNat + 1)
    let fraction := digits.drop (first.toNat + 1)
    whole ++ List.replicate (first.toNat + 1 - whole.length) '0' ++
      '.' :: (if fraction.isEmpty then ['0'] else fraction)

def writeScientific (layout : Layout) (digits : Text) (first : Int) : Text :=
  match digits with
  | [] => []
  | [digit] => digit :: writeExponent layout first
  | digit :: fraction => digit :: '.' :: fraction ++ writeExponent layout first

def write (layout : Layout) (decimal : Decimal) : Text :=
  let digits := decimal.significantDigits
  let first := if decimal.count = 0 then 0 else decimal.leadingExponent
  if layout.positionalFrom ≤ first ∧ first < layout.positionalBelow then
    writePositional digits first
  else writeScientific layout digits first

end Decimal

namespace Binary64

def textLayout : Decimal.Layout := ⟨-4, 16, 2⟩

def text : Binary64 → Text
  | nan => ['n', 'a', 'n']
  | infinite negative => (if negative then ['-'] else []) ++ ['i', 'n', 'f']
  | finite negative units =>
    (if negative then ['-'] else []) ++ (Decimal.shortest units).write textLayout

def ofText? (written : Text) : Option Binary64 :=
  if written = ['n', 'a', 'n'] then some nan
  else if written = ['i', 'n', 'f'] then some (infinite false)
  else if written = ['-', 'i', 'n', 'f'] then some (infinite true)
  else (Numeral.read? written).map Numeral.round

end Binary64

end EventFilter
