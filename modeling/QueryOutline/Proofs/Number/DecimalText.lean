import QueryOutline.Number.Decimal

/-! The digits of a decimal number say which number it is, with its places: what is read from them
is the number again. -/

namespace QueryOutline.Number

namespace Decimal

/-- The digits of the magnitude, with zeros in front so that there is one before the point. -/
def digits (d : Decimal) : List Char :=
  let digits := Nat.toDigits 10 d.unscaled.natAbs
  List.replicate (d.scale + 1 - digits.length) '0' ++ digits

def whole (d : Decimal) : List Char :=
  d.digits.take (d.digits.length - d.scale)

def fraction (d : Decimal) : List Char :=
  d.digits.drop (d.digits.length - d.scale)

def pointed (d : Decimal) : List Char :=
  if d.scale = 0 then [] else '.' :: d.fraction

theorem chars_eq (d : Decimal) :
    d.chars = (if d.unscaled < 0 then ['-'] else []) ++ d.whole ++ d.pointed :=
  rfl

/-- There are enough zeros in front for one digit before the point. -/
theorem scale_lt_length_digits (d : Decimal) : d.scale < d.digits.length := by
  simp only [digits, List.length_append, List.length_replicate]
  omega

/-- All places are written, zeros at the end included. -/
theorem length_fraction (d : Decimal) : d.fraction.length = d.scale := by
  have hLonger := d.scale_lt_length_digits
  simp only [fraction, List.length_drop]
  omega

/-- Without places there is no point. -/
theorem pointed_eq (d : Decimal) :
    d.pointed = if d.fraction = [] then [] else '.' :: d.fraction := by
  simp only [pointed, ← List.length_eq_zero_iff, length_fraction]

theorem whole_ne_nil (d : Decimal) : d.whole ≠ [] := by
  have hLonger := d.scale_lt_length_digits
  apply List.ne_nil_of_length_pos
  simp only [whole, List.length_take]
  omega

/-- The point splits the digits and loses none. -/
theorem whole_append_fraction (d : Decimal) : d.whole ++ d.fraction = d.digits :=
  List.take_append_drop _ _

theorem isDigit_of_mem_digits {d : Decimal} {c : Char} (hMember : c ∈ d.digits) :
    c.isDigit = true := by
  rcases List.mem_append.mp hMember with hZero | hDigit
  · rw [(List.mem_replicate.mp hZero).2]
    rfl
  · exact Nat.isDigit_of_mem_toDigits (by decide) (by decide) hDigit

theorem isDigit_of_mem_whole {d : Decimal} {c : Char} (hMember : c ∈ d.whole) :
    c.isDigit = true :=
  isDigit_of_mem_digits (List.mem_of_mem_take hMember)

theorem isDigit_of_mem_fraction {d : Decimal} {c : Char} (hMember : c ∈ d.fraction) :
    c.isDigit = true :=
  isDigit_of_mem_digits (List.mem_of_mem_drop hMember)

/-- The digits have the value of the magnitude, whatever zeros stand in front of them. -/
theorem ofDigitChars_digits (d : Decimal) : Nat.ofDigitChars 10 d.digits 0 = d.unscaled.natAbs := by
  simp [digits, Nat.ofDigitChars_append]

/-- Digits that are read on make a number no smaller. -/
theorem le_ofDigitChars (digits : List Char) (magnitude : Nat) :
    magnitude ≤ Nat.ofDigitChars 10 digits magnitude := by
  rw [Nat.ofDigitChars_eq_ofDigitChars_zero]
  have hPositive : 1 * magnitude ≤ 10 ^ digits.length * magnitude :=
    Nat.mul_le_mul_right magnitude (Nat.pow_pos (by decide))
  omega

theorem ofDigitChars_cons (c : Char) (digits : List Char) (magnitude : Nat) :
    Nat.ofDigitChars 10 (c :: digits) magnitude =
      Nat.ofDigitChars 10 digits (10 * magnitude + digitValue c) :=
  Nat.ofDigitChars_cons

/-- The digits before the point are read as they are, as long as their value is in range. Leading
zeros do no harm. -/
theorem readWhole_digits {digits : List Char} {magnitude : Nat}
    (hRange : Nat.ofDigitChars 10 digits magnitude < twoPow 96) :
    readWhole magnitude (digits.map digitValue) = some (Nat.ofDigitChars 10 digits magnitude) := by
  induction digits generalizing magnitude with
  | nil => simp [readWhole]
  | cons c digits ih =>
      rw [ofDigitChars_cons] at hRange ⊢
      have hNext := le_ofDigitChars digits (10 * magnitude + digitValue c)
      rw [List.map_cons, readWhole, if_pos (Nat.lt_of_le_of_lt hNext hRange)]
      exact ih hRange

/-- The digits behind the point are taken without rounding as long as there is room for them. -/
theorem readFraction_digits {digits : List Char} {magnitude scale : Nat}
    (hRange : Nat.ofDigitChars 10 digits magnitude < twoPow 96)
    (hScale : scale + digits.length ≤ 28) :
    readFraction magnitude scale (digits.map digitValue) =
      some (Nat.ofDigitChars 10 digits magnitude, scale + digits.length) := by
  induction digits generalizing magnitude scale with
  | nil => simp [readFraction]
  | cons c digits ih =>
      rw [List.length_cons] at hScale ⊢
      rw [ofDigitChars_cons] at hRange ⊢
      have hNext := le_ofDigitChars digits (10 * magnitude + digitValue c)
      rw [List.map_cons, readFraction,
        if_pos ⟨by omega, Nat.lt_of_le_of_lt hNext hRange⟩]
      have hRead := ih hRange (by omega : scale + 1 + digits.length ≤ 28)
      rw [hRead, Nat.add_right_comm, Nat.add_assoc]

/-- A decimal is made again from its sign, its magnitude and its places. There is no negative zero
to be lost. -/
theorem ofParts?_self (d : Decimal) :
    ofParts? (decide (d.unscaled < 0)) d.unscaled.natAbs d.scale = some d := by
  obtain ⟨unscaled, scale, hUnscaled, hScale⟩ := d
  rw [ofParts?, dif_pos ⟨hUnscaled, hScale⟩]
  have hSigned : (if unscaled < 0 then -(unscaled.natAbs : Int) else unscaled.natAbs) =
      unscaled := by
    omega
  simp only [decide_eq_true_eq, hSigned]

/-- What is read from the digits of a decimal number is the number, with all its places. -/
theorem ofNumeral?_digits (d : Decimal) :
    ofNumeral? ⟨decide (d.unscaled < 0), d.whole.map digitValue, d.fraction.map digitValue⟩ =
      some d := by
  have hValue : Nat.ofDigitChars 10 d.fraction (Nat.ofDigitChars 10 d.whole 0) =
      d.unscaled.natAbs := by
    rw [← Nat.ofDigitChars_append, whole_append_fraction, ofDigitChars_digits]
  have hRange := hValue ▸ d.unscaled_lt
  have hWhole := readWhole_digits (Nat.lt_of_le_of_lt (le_ofDigitChars d.fraction _) hRange)
  have hPlaces : 0 + d.fraction.length ≤ 28 := by
    rw [d.length_fraction, Nat.zero_add]
    exact d.scale_le
  have hFraction := readFraction_digits hRange hPlaces
  simp only [ofNumeral?, hWhole, Option.bind_eq_bind, Option.bind_some, hFraction, hValue,
    length_fraction, Nat.zero_add, ofParts?_self]

end Decimal

end QueryOutline.Number
