import QueryOutline.Number.Binary64

/-! The text of a floating-point number: the fewest digits that are read back as the same number,
laid out as the style of the document asks. -/

namespace QueryOutline.Number

/-- Significant decimal digits, with the power of ten that the first of them counts. -/
structure Significant where
  digits : List Char
  exponent : Int
deriving DecidableEq, Repr

structure FloatStyle where
  /-- Which of two texts of equal length is taken if both are equally near. -/
  tie : Tie
  /-- Whether a number whose first digit counts this power of ten is written without a power. -/
  positional : Int → Bool
  /-- Whether a whole number is written with a point and a zero. -/
  keepsPoint : Bool

namespace Binary64

/-- The power of ten that the first digit of a positive magnitude counts. Every magnitude of the
format is greater than `10 ^ -400`. -/
def decimalExponent (units : Nat) : Int :=
  (Nat.toDigits 10 (units * tenPow 400 / one)).length - 401

def decimalUnits (digits : Nat) (power : Int) : Nat :=
  nearest (digits * tenPow power.toNat * one) (tenPow (-power).toNat)

/-- A multiple of `10 ^ power` that is read back as the magnitude, given by its factor: one of the
two neighbours of the magnitude among these multiples, and the nearer one if both will do. -/
def readBack? (tie : Tie) (units : Nat) (power : Int) : Option Nat :=
  let num := units * tenPow (-power).toNat
  let den := one * tenPow power.toNat
  let lower := num / den
  match decimalUnits lower power == units, decimalUnits (lower + 1) power == units with
  | true, true => some (roundQuotient tie num den)
  | true, false => some lower
  | false, true => some (lower + 1)
  | false, false => none

/-- The fewest digits that are read back as the magnitude. Seventeen are always enough. -/
def shortest (tie : Tie) (units : Nat) : Significant :=
  if units = 0 then ⟨['0'], 0⟩
  else
    let first := decimalExponent units
    let found := (List.range 17).findSome? fun (more : Nat) =>
      (readBack? tie units (first - more)).map fun factor => (factor, first - more)
    match found with
    | none => ⟨['0'], 0⟩
    | some (factor, power) =>
        let digits := Nat.toDigits 10 factor
        ⟨(digits.reverse.dropWhile (· == '0')).reverse, power + digits.length - 1⟩

end Binary64

namespace Significant

def positional (number : Significant) (keepsPoint : Bool) : List Char :=
  if number.exponent < 0 then
    ['0', '.'] ++ List.replicate ((-number.exponent).toNat - 1) '0' ++ number.digits
  else
    let places := number.exponent.toNat + 1
    if number.digits.length ≤ places then
      number.digits ++ List.replicate (places - number.digits.length) '0' ++
        (if keepsPoint then ['.', '0'] else [])
    else number.digits.take places ++ ['.'] ++ number.digits.drop places

/-- The digits with the point behind the first of them and the power of ten after them. -/
def scientific (number : Significant) : List Char :=
  number.digits.take 1 ++
    (if number.digits.length ≤ 1 then [] else '.' :: number.digits.drop 1) ++
    ['e', if number.exponent < 0 then '-' else '+'] ++
    Nat.toDigits 10 number.exponent.natAbs

end Significant

def FloatStyle.write (style : FloatStyle) (negative : Bool) (units : Nat) : List Char :=
  let number := Binary64.shortest style.tie units
  (if negative then ['-'] else []) ++
    if style.positional number.exponent then number.positional style.keepsPoint
    else number.scientific

namespace Binary64

/-- Plain text has no powers of ten and no point behind a whole number. -/
def plain : FloatStyle := ⟨.up, fun _ => true, false⟩

def text : Binary64 → String
  | .nan => "NaN"
  | .infinite negative => if negative then "-inf" else "inf"
  | .finite negative units => String.ofList (plain.write negative units)

end Binary64

end QueryOutline.Number
