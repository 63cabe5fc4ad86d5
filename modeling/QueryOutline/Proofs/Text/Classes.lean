import QueryOutline.Text.Blank
import QueryOutline.Text.Word

/-! How classes of characters lie to each other. The characters of ASCII are few enough to be looked
at one by one, and the others are in tables whose ranges can be compared. -/

namespace QueryOutline.Text

/-- No range of the first table meets a range of the second. -/
def Apart (first second : List CodeRange) : Prop :=
  ∀ left ∈ first, ∀ right ∈ second, left.2 < right.1 ∨ right.2 < left.1

instance (first second : List CodeRange) : Decidable (Apart first second) :=
  inferInstanceAs
    (Decidable (∀ left ∈ first, ∀ right ∈ second, left.2 < right.1 ∨ right.2 < left.1))

/-- No letter beyond ASCII is a blank. Each range of the one table is compared with each of the
other. -/
theorem letterRanges_apart_blankRanges : Apart letterRanges blankRanges := by
  decide +kernel

theorem numericRanges_apart_blankRanges : Apart numericRanges blankRanges := by
  decide +kernel

/-- A character of the one table would lie in two ranges that do not meet. -/
theorem inRanges_eq_false_of_apart {first second : List CodeRange} (hApart : Apart first second)
    {c : Char} (hFirst : inRanges first c = true) : inRanges second c = false := by
  obtain ⟨left, hLeft, hInside⟩ := List.any_eq_true.mp hFirst
  apply List.any_eq_false.mpr
  intro right hRight hBoth
  simp only [CodeRange.contains, Bool.and_eq_true, decide_eq_true_eq] at hInside hBoth
  have hOrder := hApart left hLeft right hRight
  omega

/-- What holds for the first 128 characters holds for every character of ASCII. -/
theorem forall_ascii {P : Char → Prop} (hAll : ∀ code : Fin 128, P (Char.ofNat code)) {c : Char}
    (hAscii : isAscii c = true) : P c := by
  have hCode : c.toNat < 128 := by simpa [isAscii] using hAscii
  simpa using hAll ⟨c.toNat, hCode⟩

theorem isAscii_of_isDigit {c : Char} (hDigit : c.isDigit = true) : isAscii c = true := by
  simp only [Char.isDigit, Bool.and_eq_true, decide_eq_true_eq, UInt32.le_iff_toNat_le] at hDigit
  have hLast : c.toNat ≤ 57 := hDigit.2
  simp only [isAscii, decide_eq_true_eq]
  omega

theorem toUpper_of_isDigit {c : Char} (hDigit : c.isDigit = true) : c.toUpper = c :=
  forall_ascii (P := fun c => c.isDigit = true → c.toUpper = c) (by decide +kernel)
    (isAscii_of_isDigit hDigit) hDigit

/-- A word that starts with a digit needs another rule, which looks further than one character. -/
theorem isWordStart_of_isDigit {c : Char} (hDigit : c.isDigit = true) : isWordStart c = false :=
  forall_ascii (P := fun c => c.isDigit = true → isWordStart c = false) (by decide +kernel)
    (isAscii_of_isDigit hDigit) hDigit

/-- Blanks end words. Beyond ASCII this is a matter of the tables. -/
theorem isBlank_of_isWordChar {c : Char} (hWord : isWordChar c = true) : isBlank c = false := by
  by_cases hAscii : isAscii c = true
  · exact forall_ascii (P := fun c => isWordChar c = true → isBlank c = false) (by decide +kernel)
      hAscii hWord
  · simp only [isWordChar, isAlphanumeric, Bool.or_eq_true, isLetter, isNumeric, hAscii,
      Bool.false_eq_true, if_false, beq_iff_eq] at hWord
    rw [isBlank, if_neg hAscii]
    rcases hWord with (hLetter | hNumber) | rfl
    · exact inRanges_eq_false_of_apart letterRanges_apart_blankRanges hLetter
    · exact inRanges_eq_false_of_apart numericRanges_apart_blankRanges hNumber
    · exact absurd (by decide) hAscii

end QueryOutline.Text
