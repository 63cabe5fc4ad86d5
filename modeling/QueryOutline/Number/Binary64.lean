import QueryOutline.Number.Digits
import QueryOutline.Number.Rounding

/-! Binary floating-point numbers of 64 bits, counted in units of `2^-1074`. Every finite one is a
whole number of units, so that arithmetic is exact on natural numbers until its one rounding. -/

namespace QueryOutline.Number

/-- A binary floating-point number. A finite one is its sign together with its distance from zero
in units of `2^-1074`, the least positive number of the format. -/
inductive Binary64 where
  | nan
  | infinite (negative : Bool)
  | finite (negative : Bool) (units : Nat)
deriving DecidableEq, Repr

namespace Binary64

/-- The number of units in one. -/
def one : Nat := twoPow 1074

/-- The number of units from which on a magnitude is infinite. -/
def overflow : Nat := twoPow 2098

/-- The distance, in units, between two numbers of the format from `units` on. A number has 53
significant bits, and no distance is less than one unit. -/
def spacing (units : Nat) : Nat :=
  twoPow (units.log2 - 52)

/-- The magnitude of the format nearest to `num / den` units. Of two that are equally near, the
one with an even last bit is taken. -/
def nearest (num den : Nat) : Nat :=
  let gap := spacing (num / den)
  roundQuotient .toEven num (den * gap) * gap

/-- The number with a given sign and magnitude, infinite from `overflow` on. -/
def ofUnits (negative : Bool) (units : Nat) : Binary64 :=
  if units < overflow then .finite negative units else .infinite negative

def ofRatio (negative : Bool) (num den : Nat) : Binary64 :=
  ofUnits negative (nearest (num * one) den)

/-- The number nearest to `digits * 10 ^ exponent`, with a given sign. Powers of ten that carry the
value beyond all magnitudes, or below half a unit, are not computed. -/
def ofScientific (negative : Bool) (digits : Nat) (exponent : Int) : Binary64 :=
  if digits = 0 then .finite negative 0
  else if 400 < exponent then .infinite negative
  else if exponent < -(401 + digits.log2 : Int) then .finite negative 0
  else ofRatio negative (digits * tenPow exponent.toNat) (tenPow (-exponent).toNat)

/-- Equality of values: a number that is not a number equals nothing, and the two zeros are
equal. -/
def same : Binary64 → Binary64 → Bool
  | .infinite left, .infinite right => left == right
  | .finite leftSign left, .finite rightSign right =>
      left == right && (leftSign == rightSign || left == 0)
  | _, _ => false

/-! Arithmetic on magnitudes, each operation exact up to one rounding. -/

def wholeUnits (n : Nat) : Nat :=
  nearest (n * one) 1

/-- The rounded sum of two magnitudes. -/
def addUnits (left right : Nat) : Nat :=
  nearest (left + right) 1

def mulUnits (left right : Nat) : Nat :=
  nearest (left * right) one

def divUnits (left right : Nat) : Nat :=
  nearest (left * one) right

/-- The nearest whole number, in units; a half goes up. -/
def roundUnits (units : Nat) : Nat :=
  roundQuotient .up units one * one

/-- The product of `product` and `square ^ n` by squaring, with every product rounded. At most
`rounds` bits of `n` are looked at. -/
def mulPowUnits : (rounds product square n : Nat) → Nat
  | 0, product, _, _ => product
  | rounds + 1, product, square, n =>
      let next := if n % 2 = 1 then mulUnits product square else product
      if n / 2 = 0 then next
      else mulPowUnits rounds next (mulUnits square square) (n / 2)

/-- The power `base ^ n` by squaring. A number has no more bits than its value. -/
def powUnits (base n : Nat) : Nat :=
  mulPowUnits n (wholeUnits 1) base n

end Binary64

end QueryOutline.Number
