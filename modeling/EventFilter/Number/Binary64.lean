/-!
Binary64 numbers and the rounding of rationals to them.

Every finite binary64 number is a whole multiple of 2^-1074, so a magnitude is kept as the number
of these units. Rounding goes to the nearest magnitude, a tie to the even significand.
-/

namespace EventFilter

inductive Binary64 where
  | nan
  | infinite (negative : Bool)
  | finite (negative : Bool) (units : Nat)
deriving DecidableEq

/-- A finite number by its value alone, in units of 2^-1074: both zeros are the same quantity. -/
structure Quantity where
  units : Int
deriving DecidableEq

def Quantity.compare (left right : Quantity) : Ordering :=
  Ord.compare left.units right.units

namespace Binary64

def unitsOfOne : Nat := Nat.pow 2 1074

def overflowUnits : Nat := Nat.pow 2 2098

/-- The quotient rounded to the nearest whole number, a tie to the even one. -/
def divideHalfEven (numerator denominator : Nat) : Nat :=
  let quotient := numerator / denominator
  let doubledRemainder := 2 * (numerator % denominator)
  if doubledRemainder < denominator then quotient
  else if denominator < doubledRemainder then quotient + 1
  else if quotient % 2 = 0 then quotient
  else quotient + 1

def spacing (units : Nat) : Nat :=
  Nat.pow 2 (units.log2 - 52)

def roundUnits (numerator denominator : Nat) : Nat :=
  let scaled := numerator * unitsOfOne
  let step := spacing (scaled / denominator)
  divideHalfEven scaled (denominator * step) * step

def units? (numerator denominator : Nat) : Option Nat :=
  let units := roundUnits numerator denominator
  if units < overflowUnits then some units else none

def ofUnits? (negative : Bool) : Option Nat → Binary64
  | some units => finite negative units
  | none => infinite negative

def signed (negative : Bool) (units : Nat) : Quantity :=
  ⟨if negative then -(units : Int) else units⟩

def quantity? : Binary64 → Option Quantity
  | finite negative units => some (signed negative units)
  | _ => none

def quantityOfInt? (value : Int) : Option Quantity :=
  (units? value.natAbs 1).map (signed (value < 0))

def int? : Binary64 → Option Int
  | finite negative units =>
    if units % unitsOfOne = 0 then
      some (if negative then -(units / unitsOfOne : Int) else units / unitsOfOne)
    else none
  | _ => none

end Binary64

end EventFilter
