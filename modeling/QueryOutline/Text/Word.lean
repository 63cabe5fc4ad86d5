import QueryOutline.Text.Letter
import QueryOutline.Text.Numeric

namespace QueryOutline.Text

/-- Whether the character is a letter or a number of any script. -/
def isAlphanumeric (c : Char) : Bool :=
  isLetter c || isNumeric c

/-- Whether the character can continue a word: a letter, a number or the underscore. -/
def isWordChar (c : Char) : Bool :=
  isAlphanumeric c || c == '_'

/-- Whether the character starts a word by itself: a letter or the underscore. -/
def isWordStart (c : Char) : Bool :=
  isLetter c || c == '_'

/-- A text in upper case with regard to the two alphabets of ASCII only. Two words that agree in
this form differ in the case of ASCII letters at most. -/
def asciiUpper (word : List Char) : List Char :=
  word.map Char.toUpper

/-- The number of bytes of a text in UTF-8. -/
def byteSize : List Char → Nat
  | [] => 0
  | c :: text => c.utf8Size + byteSize text

@[simp]
theorem byteSize_append (first second : List Char) :
    byteSize (first ++ second) = byteSize first + byteSize second := by
  induction first with
  | nil => simp [byteSize]
  | cons c first ih => simp [byteSize, ih, Nat.add_assoc]

/-- The bytes that are counted are those of the string. -/
theorem byteSize_toList (text : String) : byteSize text.toList = text.utf8ByteSize := by
  suffices hChars : ∀ chars : List Char, byteSize chars = (String.ofList chars).utf8ByteSize by
    rw [hChars, String.ofList_toList]
  intro chars
  induction chars with
  | nil => rfl
  | cons c chars ih =>
      have hCons : String.ofList (c :: chars) = String.singleton c ++ String.ofList chars := by
        rw [String.singleton_eq_ofList, ← String.ofList_append]
        rfl
      rw [hCons, String.utf8ByteSize_append, String.utf8ByteSize_singleton, byteSize, ih]

end QueryOutline.Text
