import QueryOutline.Number.Binary64
import QueryOutline.Number.Digits

namespace QueryOutline.Number.Binary64

/-- A sign, if there is one, and what follows it. A text without a sign is positive. -/
def readSign : List Char → Bool × List Char
  | '-' :: rest => (true, rest)
  | '+' :: rest => (false, rest)
  | text => (false, text)

def readDigits (text : List Char) : List Nat × List Char :=
  ((text.takeWhile Char.isDigit).map digitValue, text.dropWhile Char.isDigit)

/-- The power of ten at the end of a numeral. A numeral without one has the power zero. -/
def readExponent? : List Char → Option Int
  | [] => some 0
  | mark :: rest =>
      if mark == 'e' || mark == 'E' then
        let (negative, rest) := readSign rest
        match readDigits rest with
        | (digit :: digits, []) =>
            let power := digitsValue (digit :: digits)
            some (if negative then -power else power)
        | _ => none
      else none

/-- The digits behind a point, if there is one, and what follows them. -/
def readFraction : List Char → List Nat × List Char
  | '.' :: rest => readDigits rest
  | text => ([], text)

/-- The number nearest to a numeral with at least one digit: a point may stand before, between or
after the digits, and a power of ten may follow. -/
def ofUnsigned? (negative : Bool) (text : List Char) : Option Binary64 := do
  let (whole, rest) := readDigits text
  let (fraction, rest) := readFraction rest
  let exponent ← readExponent? rest
  let digits := whole ++ fraction
  if digits.isEmpty then none
  else some (.ofScientific negative (digitsValue digits) (exponent - fraction.length))

/-- The number that a text stands for: a numeral, an infinity, or the name of no number, in any
case, with or without a sign. -/
def ofText? (text : String) : Option Binary64 :=
  let (negative, rest) := readSign text.toList
  let word := rest.map Char.toLower
  if word == "inf".toList || word == "infinity".toList then some (.infinite negative)
  else if word == "nan".toList then some .nan
  else ofUnsigned? negative rest

end QueryOutline.Number.Binary64
