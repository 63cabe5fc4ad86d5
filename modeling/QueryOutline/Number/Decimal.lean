import QueryOutline.Number.Binary64

/-! Decimal numbers with a fixed number of places: an integer of at most 96 bits over a power of
ten. The number of places is kept, so that `1.50` is written as it was read. -/

namespace QueryOutline.Number

/-- The decimal number `unscaled / 10 ^ scale`, with `scale` places after the point. -/
structure Decimal where
  unscaled : Int
  scale : Nat
  unscaled_lt : unscaled.natAbs < twoPow 96
  scale_le : scale ≤ 28
deriving DecidableEq

/-- A number as it is written: a sign, the digits before the point and those behind it. -/
structure Numeral where
  negative : Bool
  whole : List Nat
  fraction : List Nat
deriving DecidableEq, Repr

def Numeral.toBinary64 (numeral : Numeral) : Binary64 :=
  .ofScientific numeral.negative (digitsValue (numeral.whole ++ numeral.fraction))
    (-numeral.fraction.length)

namespace Decimal

/-- The decimal with a given sign, magnitude and number of places, if it is in range. A zero has
no sign. -/
def ofParts? (negative : Bool) (magnitude scale : Nat) : Option Decimal :=
  if h : magnitude < twoPow 96 ∧ scale ≤ 28 then
    some {
      unscaled := if negative then -magnitude else magnitude
      scale := scale
      unscaled_lt := by cases negative <;> simpa using h.1
      scale_le := h.2 }
  else none

def zero : Decimal := ⟨0, 0, by decide, by decide⟩

/-- The magnitude of the digits before the point, read on from `magnitude`, as long as it has at
most 96 bits. -/
def readWhole (magnitude : Nat) : List Nat → Option Nat
  | [] => some magnitude
  | digit :: digits =>
      if 10 * magnitude + digit < twoPow 96 then readWhole (10 * magnitude + digit) digits else none

/-- One more at the last place. If that takes 97 bits, the last place is given up. -/
def roundUp? (magnitude scale : Nat) : Option (Nat × Nat) :=
  if magnitude + 1 < twoPow 96 then some (magnitude + 1, scale)
  else if scale = 0 then none
  else some ((magnitude + 5) / 10, scale - 1)

/-- The magnitude and the number of places after the digits behind the point. The first digit for
which there is no room decides the rounding, and all digits after it are ignored. -/
def readFraction (magnitude scale : Nat) : List Nat → Option (Nat × Nat)
  | [] => some (magnitude, scale)
  | digit :: digits =>
      if scale < 28 ∧ 10 * magnitude + digit < twoPow 96 then
        readFraction (10 * magnitude + digit) (scale + 1) digits
      else if digit < 5 then some (magnitude, scale)
      else roundUp? magnitude scale

/-- The decimal that a numeral stands for, unless its whole part takes more than 96 bits. -/
def ofNumeral? (numeral : Numeral) : Option Decimal := do
  let whole ← readWhole 0 numeral.whole
  let (magnitude, scale) ← readFraction whole 0 numeral.fraction
  ofParts? numeral.negative magnitude scale

/-- Equality of values: `1` and `1.0` are the same number. -/
def same (left right : Decimal) : Bool :=
  left.unscaled * tenPow right.scale == right.unscaled * tenPow left.scale

/-- The integer of 64 bits, with sign, that is equal to the decimal, if there is one. -/
def toInt64? (d : Decimal) : Option Int :=
  let value := d.unscaled / tenPow d.scale
  if d.unscaled % tenPow d.scale = 0 ∧ -twoPow 63 ≤ value ∧ value < twoPow 63 then some value
  else none

/-- The digits of the decimal, with all its places and at least one digit before the point. -/
def chars (d : Decimal) : List Char :=
  let digits := Nat.toDigits 10 d.unscaled.natAbs
  let padded := List.replicate (d.scale + 1 - digits.length) '0' ++ digits
  let split := padded.length - d.scale
  (if d.unscaled < 0 then ['-'] else []) ++ padded.take split ++
    (if d.scale = 0 then [] else '.' :: padded.drop split)

def text (d : Decimal) : String :=
  String.ofList d.chars

/-- The magnitude of the decimal in the units of a floating-point number. The part before the
point and the part behind it are rounded apart, and the sum is then rounded to the places of the
decimal, so that the result is not always the nearest number of the format. -/
def magnitudeUnits (d : Decimal) : Nat :=
  let power := tenPow d.scale
  let whole := Binary64.wholeUnits (d.unscaled.natAbs / power)
  let fraction :=
    Binary64.divUnits (Binary64.wholeUnits (d.unscaled.natAbs % power)) (Binary64.wholeUnits power)
  if d.scale = 0 ∨ fraction = 0 then whole
  else
    let places := Binary64.powUnits (Binary64.wholeUnits 10) d.scale
    Binary64.divUnits
      (Binary64.roundUnits (Binary64.mulUnits (Binary64.addUnits whole fraction) places)) places

def toBinary64 (d : Decimal) : Binary64 :=
  .ofUnits (decide (d.unscaled < 0)) d.magnitudeUnits

end Decimal

end QueryOutline.Number
