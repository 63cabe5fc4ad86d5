import Mathlib.Algebra.Order.Field.Rat
import Mathlib.Tactic.Positivity
import QueryOutline.Outline.Json
import QueryOutline.Proofs.Lexeme.Layout
import QueryOutline.Proofs.Lexeme.Places

/-! Whole numbers are exact on their way from the text to its JSON form. A literal whose value is an
integer of 64 bits is read as a decimal of this value, also where the zeros behind its point are
more than a decimal has places for, and the decimal is written as this integer. No other decimal is
written as an integer. -/

namespace QueryOutline

open Number Text

namespace Number.Decimal

section Value

def value (d : Decimal) : ℚ :=
  d.unscaled / 10 ^ d.scale

variable {d : Decimal} {whole : Int}

theorem value_eq_intCast_iff : d.value = whole ↔ d.unscaled = whole * 10 ^ d.scale := by
  have hPower : (10 : ℚ) ^ d.scale ≠ 0 := by positivity
  rw [value, div_eq_iff hPower]
  norm_cast

/-- The integers of 64 bits are found exactly for the decimals that are equal to them. -/
theorem toInt64?_eq_some_iff :
    d.toInt64? = some whole ↔ d.value = whole ∧ -2 ^ 63 ≤ whole ∧ whole < 2 ^ 63 := by
  have hPower : (tenPow d.scale : Int) = 10 ^ d.scale := by
    simp [tenPow]
  have hPositive : (10 : Int) ^ d.scale ≠ 0 := by positivity
  have hRange : (twoPow 63 : Int) = 2 ^ 63 := rfl
  rw [value_eq_intCast_iff]
  simp only [toInt64?, hPower, hRange]
  constructor
  · intro hFound
    split at hFound
    · rename_i hWhole
      obtain rfl := Option.some.inj hFound
      exact ⟨(Int.ediv_mul_cancel_of_emod_eq_zero hWhole.1).symm, hWhole.2⟩
    · cases hFound
  · rintro ⟨hScaled, hWhole⟩
    rw [hScaled, Int.mul_emod_left, Int.mul_ediv_cancel _ hPositive, if_pos ⟨rfl, hWhole⟩]

/-- The form is an integer for the integers of 64 bits and for no other value. -/
theorem toJson_eq_integer_iff :
    d.toJson = .integer whole ↔ d.value = whole ∧ -2 ^ 63 ≤ whole ∧ whole < 2 ^ 63 := by
  rw [← toInt64?_eq_some_iff, toJson]
  cases d.toInt64? <;> simp

end Value

section Zeros

variable {magnitude scale : Nat}

/-- Zeros behind the point are taken as places as long as there is room for them, and the first one
without room rounds nothing up. -/
theorem readFraction_zeros (hMagnitude : magnitude < twoPow 96) (hScale : scale ≤ 28)
    (zeros : Nat) :
    ∃ places, readFraction magnitude scale (List.replicate zeros 0) =
        some (magnitude * 10 ^ places, scale + places) ∧
      magnitude * 10 ^ places < twoPow 96 ∧ scale + places ≤ 28 := by
  induction zeros generalizing magnitude scale with
  | zero => exact ⟨0, by simp [readFraction], by simpa using hMagnitude, hScale⟩
  | succ zeros ih =>
      rw [List.replicate_succ, readFraction]
      split
      · rename_i hRoom
        obtain ⟨places, hRead, hLess, hPlaces⟩ := ih hRoom.2 (by omega : scale + 1 ≤ 28)
        have hShifted : (10 * magnitude + 0) * 10 ^ places = magnitude * 10 ^ (places + 1) := by
          rw [Nat.add_zero, Nat.pow_succ', ← Nat.mul_assoc, Nat.mul_comm magnitude 10]
        rw [hShifted] at hRead hLess
        exact ⟨places + 1, by rw [hRead, Nat.add_right_comm, Nat.add_assoc], hLess, by omega⟩
      · exact ⟨0, by simp, by simpa using hMagnitude, hScale⟩

/-- Within the limits of a decimal its parts make one. A zero loses its sign, which its value does
not have. -/
theorem exists_ofParts? (negative : Bool) (hMagnitude : magnitude < twoPow 96)
    (hScale : scale ≤ 28) :
    ∃ d, ofParts? negative magnitude scale = some d ∧
      d.unscaled = (if negative then -magnitude else magnitude : Int) ∧ d.scale = scale := by
  rw [ofParts?, dif_pos ⟨hMagnitude, hScale⟩]
  exact ⟨_, rfl, rfl, rfl⟩

end Zeros

end Number.Decimal

section Literals

/-- The text of a whole number: digits behind a sign or behind none, and any number of zeros behind
a point. -/
def wholeText (negative : Bool) (digits : List Char) (zeros : Nat) : List Char :=
  (if negative then ['-'] else []) ++ digits ++ pointDigits (List.replicate zeros '0')

def wholeValue (negative : Bool) (digits : List Char) : Int :=
  if negative then -(Nat.ofDigitChars 10 digits 0) else Nat.ofDigitChars 10 digits 0

/-- Whatever zeros are behind the point, the decimal that is read has the value of the digits in
front of it. -/
theorem exists_numberToken_whole {digits : List Char} (negative : Bool)
    (hRange : Nat.ofDigitChars 10 digits 0 < twoPow 96) (zeros : Nat) :
    ∃ d : Decimal, numberToken negative digits (List.replicate zeros '0') = .number d ∧
      d.value = wholeValue negative digits := by
  obtain ⟨places, hFraction, hMagnitude, hPlaces⟩ :=
    Decimal.readFraction_zeros hRange (Nat.zero_le 28) zeros
  rw [Nat.zero_add] at hFraction hPlaces
  obtain ⟨d, hParts, hUnscaled, hScale⟩ :=
    Decimal.exists_ofParts? negative hMagnitude hPlaces
  have hZeros : (List.replicate zeros '0').map digitValue = List.replicate zeros 0 :=
    List.map_replicate
  have hNumeral : Decimal.ofNumeral? ⟨negative, digits.map digitValue,
      (List.replicate zeros '0').map digitValue⟩ = some d := by
    simp only [Decimal.ofNumeral?, Decimal.readWhole_digits hRange, hZeros, Option.bind_eq_bind,
      Option.bind_some, hFraction, hParts]
  refine ⟨d, by simp only [numberToken, hNumeral], Decimal.value_eq_intCast_iff.mpr ?_⟩
  rw [hUnscaled, hScale, wholeValue]
  cases negative <;> simp

/-- A word spells one token. -/
theorem Spells.token_unique {afterDot : Bool} {word : List Char} {token other : Token}
    (hToken : Spells afterDot word token) (hOther : Spells afterDot word other) :
    token = other := by
  obtain ⟨c, rest, rfl, -, hScan⟩ := hToken
  obtain ⟨_, _, hWord, -, hOtherScan⟩ := hOther
  obtain ⟨rfl, rfl⟩ := List.cons.inj hWord
  exact congrArg Scan.token (hScan.symm.trans hOtherScan)

/-- A lexeme is what its source spells. -/
theorem Lexeme.spells_source {text : String} {front back : List Lexeme} {lexeme : Lexeme}
    (hLexemes : lexemes text = front ++ lexeme :: back) :
    Spells (endsInDot false front) (lexeme.source text) lexeme.token := by
  obtain ⟨before, c, rest, hSolid, hToken, hParts, hStart, hStop⟩ :=
    Lexeme.exists_cutFrom hLexemes
  obtain ⟨token, start, stop⟩ := lexeme
  obtain rfl : token = _ := hToken
  obtain rfl : start = _ := hStart
  obtain rfl : stop = _ := hStop
  rw [Lexeme.source_eq hParts]
  exact spells_scanToken _ hSolid rest

end Literals

/-- A whole number that is an integer of 64 bits is read and written exactly. Its literal, with any
zeros in front of it and behind its point, is one token of this value, by itself and wherever a
lexeme of a text is read from it, and the JSON form of the token is this integer. A decimal is
written as an integer exactly if its value is an integer of 64 bits, which is then the one that is
written. -/
theorem whole_numbers_exact :
    (∀ (negative : Bool) (digits : List Char) (zeros : Nat), digits ≠ [] →
      (∀ c ∈ digits, c.isDigit = true) → -2 ^ 63 ≤ wholeValue negative digits →
      wholeValue negative digits < 2 ^ 63 →
      ∃ d : Decimal, d.value = wholeValue negative digits ∧
        d.toJson = .integer (wholeValue negative digits) ∧
        lexemes (String.ofList (wholeText negative digits zeros)) =
          [⟨.number d, 0, byteSize (wholeText negative digits zeros)⟩] ∧
        ∀ text, ∀ lexeme ∈ lexemes text, lexeme.source text = wholeText negative digits zeros →
          lexeme.token = .number d) ∧
    ∀ (d : Decimal) (whole : Int),
      d.toJson = .integer whole ↔ d.value = whole ∧ -2 ^ 63 ≤ whole ∧ whole < 2 ^ 63 := by
  refine ⟨?_, fun d whole => Decimal.toJson_eq_integer_iff⟩
  intro negative digits zeros hSome hDigits hLow hHigh
  have hRange : Nat.ofDigitChars 10 digits 0 < twoPow 96 := by
    have hBits : twoPow 96 = 2 ^ 96 := rfl
    cases negative <;>
      simp only [wholeValue, Bool.false_eq_true, if_false, if_true] at hLow hHigh <;> omega
  obtain ⟨d, hToken, hValue⟩ := exists_numberToken_whole negative hRange zeros
  have hZeros : ∀ c ∈ List.replicate zeros '0', c.isDigit = true := by
    intro c hMember
    rw [List.eq_of_mem_replicate hMember]
    rfl
  have hSpells : ∀ afterDot, Spells afterDot (wholeText negative digits zeros) (.number d) :=
    fun afterDot => hToken ▸ spells_number afterDot negative hSome hDigits hZeros
  refine ⟨d, hValue, Decimal.toJson_eq_integer_iff.mpr ⟨hValue, hLow, hHigh⟩, ?_, ?_⟩
  · have hAlone := Scanner.lexemes_word (hSpells false) (.inl rfl) 0
    rw [List.append_nil, Scanner.lexemes_nil, Nat.zero_add] at hAlone
    rwa [lexemes, Scanner.ofText, String.toList_ofList]
  · intro text lexeme hMember hSource
    obtain ⟨front, back, hLexemes⟩ := List.append_of_mem hMember
    have hRead := Lexeme.spells_source hLexemes
    rw [hSource] at hRead
    exact hRead.token_unique (hSpells _)

/-- The least integer of 64 bits, with two zeros in front of it and more zeros behind its point than
a decimal has places. -/
theorem whole_numbers_exact_least :
    wholeValue true "009223372036854775808".toList = -2 ^ 63 ∧
      ∃ d : Decimal, d.value = -2 ^ 63 ∧ d.toJson = .integer (-2 ^ 63) ∧
        lexemes (String.ofList (wholeText true "009223372036854775808".toList 30)) =
          [⟨.number d, 0, 53⟩] := by
  have hValue : wholeValue true "009223372036854775808".toList = -2 ^ 63 := by decide +kernel
  have hDigits : ∀ c ∈ "009223372036854775808".toList, c.isDigit = true :=
    List.all_eq_true.mp (by decide +kernel)
  obtain ⟨d, hDecimal, hJson, hLexemes, -⟩ := whole_numbers_exact.1 true
    "009223372036854775808".toList 30 (by decide) hDigits (by rw [hValue]) (by rw [hValue]; decide)
  rw [hValue] at hDecimal hJson
  exact ⟨hValue, d, by exact_mod_cast hDecimal, hJson, hLexemes⟩

end QueryOutline
