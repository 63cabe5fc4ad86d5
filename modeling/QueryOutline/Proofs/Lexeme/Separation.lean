import QueryOutline.Proofs.Lexeme.Names

/-! What stands apart from a text. If a text goes on with a character that no token goes on with,
then each of its tokens is scanned as if nothing followed. Only a quote without its partner takes
all that is behind it. -/

namespace QueryOutline

open Number Text

/-- Whether no token but a quoted text goes on with the character: no word, no number, no parameter
and no mark of two characters. -/
def isSeparator (c : Char) : Bool :=
  !(isWordChar c || ['=', '&', '|', '.', '@'].contains c)

def StartsApart (text : List Char) : Prop :=
  ∀ c ∈ text.head?, isSeparator c = true

def Token.isOpenString : Token → Bool
  | .openString _ => true
  | _ => false

section Separators

variable {c : Char} {more : List Char}

theorem isSeparator_iff :
    isSeparator c = true ↔ isWordChar c = false ∧ c ≠ '=' ∧ c ≠ '&' ∧ c ≠ '|' ∧ c ≠ '.' ∧
      c ≠ '@' := by
  simp [isSeparator]

theorem isDigit_of_isSeparator (hSeparator : isSeparator c = true) : c.isDigit = false :=
  Bool.eq_false_iff.mpr fun hDigit => by
    simp [isSeparator, isWordChar_of_isDigit hDigit] at hSeparator

theorem isSeparator_of_isBlank (hBlank : isBlank c = true) : isSeparator c = true := by
  refine isSeparator_iff.mpr ⟨?_, ?_⟩
  · exact Bool.eq_false_iff.mpr fun hWord => by simp [isBlank_of_isWordChar hWord] at hBlank
  · refine ⟨?_, ?_, ?_, ?_, ?_⟩ <;> rintro rfl <;> exact absurd hBlank (by decide)

theorem startsApart_nil : StartsApart [] :=
  nofun

theorem startsApart_cons : StartsApart (c :: more) ↔ isSeparator c = true := by
  simp [StartsApart]

/-- Blanks stand apart from whatever is in front of them. Where there are none, what follows has
to. -/
theorem startsApart_of_blanks {blanks : List Char} (hBlanks : isBlankText blanks = true)
    (hMore : blanks = [] → StartsApart more) : StartsApart (blanks ++ more) := by
  cases blanks with
  | nil => exact hMore rfl
  | cons c blanks =>
      have hBlank := List.all_eq_true.mp hBlanks c (List.mem_cons_self ..)
      exact startsApart_cons.mpr (isSeparator_of_isBlank hBlank)

end Separators

section Spans

variable {p : Char → Bool} {more : List Char}

/-- A run of characters of a class does not reach what starts with none of them. -/
theorem takeWhile_append_apart (hMore : ∀ c ∈ more.head?, p c = false) (text : List Char) :
    (text ++ more).takeWhile p = text.takeWhile p := by
  induction text with
  | nil =>
      cases more with
      | nil => rfl
      | cons c more => simp [hMore c rfl]
  | cons c text ih => simp [List.takeWhile_cons, ih]

/-- What a run leaves of the text is left in front of what stands apart. -/
theorem dropWhile_append_apart (hMore : ∀ c ∈ more.head?, p c = false) (text : List Char) :
    (text ++ more).dropWhile p = text.dropWhile p ++ more := by
  induction text with
  | nil =>
      cases more with
      | nil => rfl
      | cons c more => simp [hMore c rfl]
  | cons c text ih =>
      by_cases hClass : p c = true <;> simp [hClass, ih]

/-- Whether a text starts with a character of a class does not depend on what starts with none. -/
theorem head?_append_any_apart (hMore : ∀ c ∈ more.head?, p c = false) (text : List Char) :
    (text ++ more).head?.any p = text.head?.any p := by
  cases text with
  | nil =>
      cases more with
      | nil => rfl
      | cons c more => simp [hMore c rfl]
  | cons c text => rfl

end Spans

namespace StartsApart

variable {more : List Char} (hMore : StartsApart more)

include hMore

theorem isWordChar : ∀ c ∈ more.head?, isWordChar c = false :=
  fun c hFirst => (isSeparator_iff.mp (hMore c hFirst)).1

theorem isDigit : ∀ c ∈ more.head?, c.isDigit = false :=
  fun c hFirst => isDigit_of_isSeparator (hMore c hFirst)

/-- A word ends where the text does, and its token is the same. -/
theorem scanWord_append (afterDot : Bool) (text : List Char) :
    scanWord afterDot (text ++ more) =
      { scanWord afterDot text with rest := (scanWord afterDot text).rest ++ more } := by
  simp only [scanWord, takeWhile_append_apart hMore.isWordChar,
    dropWhile_append_apart hMore.isWordChar]

/-- Digits at the end of the text do not become a name by what stands apart from them. -/
theorem digitsRunIntoWord_append (text : List Char) :
    digitsRunIntoWord (text ++ more) = digitsRunIntoWord text := by
  rw [digitsRunIntoWord, dropWhile_append_apart hMore.isDigit,
    head?_append_any_apart hMore.isWordChar, digitsRunIntoWord]

/-- A point at the end of the text gets no digits from what stands apart. -/
theorem fractionDigits_append (text : List Char) :
    fractionDigits (text ++ more) = fractionDigits text := by
  cases text with
  | nil =>
      cases more with
      | nil => rfl
      | cons c more =>
          have hPoint := (isSeparator_iff.mp (hMore c rfl)).2.2.2.2.1
          simp [fractionDigits, hPoint]
  | cons c text =>
      by_cases hPoint : c = '.'
      · subst hPoint
        exact takeWhile_append_apart hMore.isDigit text
      · simp [fractionDigits, hPoint]

/-- A number ends where the text does, also behind a point without digits. -/
theorem scanNumber_append (negative : Bool) (text : List Char) :
    scanNumber negative (text ++ more) =
      { scanNumber negative text with rest := (scanNumber negative text).rest ++ more } := by
  simp only [scanNumber, takeWhile_append_apart hMore.isDigit,
    dropWhile_append_apart hMore.isDigit, hMore.fractionDigits_append, Scan.mk.injEq, true_and]
  split
  · rfl
  · rename_i hFraction
    have hText := congrArg List.length (QueryOutline.fractionDigits_append
      (text.dropWhile Char.isDigit) (by simpa using hFraction))
    rw [List.drop_append_of_le_length]
    simp only [List.length_append, List.length_cons] at hText ⊢
    omega

/-- A single at sign at the end of the text stays single. -/
theorem sigil_append (text : List Char) : sigil (text ++ more) = sigil text := by
  cases text with
  | nil =>
      cases more with
      | nil => rfl
      | cons c more =>
          have hSign := (isSeparator_iff.mp (hMore c rfl)).2.2.2.2.2
          simp [sigil, hSign]
  | cons c text =>
      by_cases hSign : c = '@'
      · subst hSign
        rfl
      · simp [sigil, hSign]

/-- A parameter ends where the text does, and a sign without a word stays a symbol. -/
theorem scanParameter_append (text : List Char) :
    scanParameter (text ++ more) =
      { scanParameter text with rest := (scanParameter text).rest ++ more } := by
  have hDrop : (text ++ more).drop ((sigil text).length - 1) =
      text.drop ((sigil text).length - 1) ++ more := by
    rw [List.drop_append_of_le_length]
    unfold sigil
    split
    · simp
    · simp
  simp only [scanParameter, hMore.sigil_append, hDrop, takeWhile_append_apart hMore.isWordChar,
    dropWhile_append_apart hMore.isWordChar]
  split <;> rfl

/-- A word without separators that starts the longer text lies within the text itself. -/
theorem isPrefixOf_append {word : List Char} (hWord : ∀ c ∈ word, isSeparator c = false)
    (text : List Char) : word.isPrefixOf (text ++ more) = word.isPrefixOf text := by
  induction word generalizing text with
  | nil => simp
  | cons c word ih =>
      obtain ⟨hFirst, hRest⟩ := List.forall_mem_cons.mp hWord
      cases text with
      | cons d text =>
          rw [List.cons_append, List.isPrefixOf_cons_cons, List.isPrefixOf_cons_cons, ih hRest]
      | nil =>
          cases more with
          | nil => rfl
          | cons d more =>
              have hOther : c ≠ d := by
                rintro rfl
                rw [hMore c rfl] at hFirst
                cases hFirst
              simp [List.isPrefixOf_cons_cons, hOther]

end StartsApart

section Quotes

/-- The closing quote is part of the source, and the text goes on behind it. -/
theorem scanQuoted_quote (quote : Char) (text : List Char) :
    scanQuoted quote (quote :: text) = ⟨[], [quote], text, true⟩ := by
  rw [scanQuoted.eq_def]
  simp

/-- A backslash and the character behind it are two characters of the source and one of the
value. -/
theorem scanQuoted_backslash {quote : Char} (hQuote : quote ≠ '\\') (c : Char) (text : List Char) :
    scanQuoted quote ('\\' :: c :: text) =
      { scanQuoted quote text with
        value := unescape c :: (scanQuoted quote text).value
        source := '\\' :: c :: (scanQuoted quote text).source } := by
  rw [scanQuoted.eq_def]
  simp [hQuote.symm]

theorem scanQuoted_plain {quote c : Char} (hQuote : c ≠ quote) (hPlain : c ≠ '\\')
    (text : List Char) :
    scanQuoted quote (c :: text) =
      { scanQuoted quote text with
        value := c :: (scanQuoted quote text).value
        source := c :: (scanQuoted quote text).source } := by
  rw [scanQuoted.eq_def]
  simp [hQuote, hPlain]

/-- What is behind a closed quote does not matter, whatever it starts with. -/
theorem scanQuoted_append_of_closed (quote : Char) (text more : List Char)
    (hClosed : (scanQuoted quote text).closed = true) :
    scanQuoted quote (text ++ more) =
      { scanQuoted quote text with rest := (scanQuoted quote text).rest ++ more } := by
  fun_induction scanQuoted quote text with
  | case1 => cases hClosed
  | case2 text => exact scanQuoted_quote quote (text ++ more)
  | case3 => cases hClosed
  | case4 escaped text scan hQuote ih =>
      rw [List.cons_append, List.cons_append, scanQuoted_backslash (Ne.symm hQuote), ih hClosed]
  | case5 c text hQuote hPlain scan ih =>
      rw [List.cons_append, scanQuoted_plain hQuote hPlain, ih hClosed]

/-- A string that is closed ends at its quote, whatever follows. -/
theorem scanString_append_of_closed {quote : Char} {text : List Char}
    (hClosed : (scanString quote text).token.isOpenString = false) (more : List Char) :
    scanString quote (text ++ more) =
      { scanString quote text with rest := (scanString quote text).rest ++ more } := by
  cases hQuoted : (scanQuoted quote text).closed with
  | false => simp [scanString, hQuoted, Token.isOpenString] at hClosed
  | true => simp only [scanString, scanQuoted_append_of_closed quote text more hQuoted]

end Quotes

/-- A mark goes on with its second character, so that this one is no separator. -/
theorem Mark.isSeparator_of_mem_tail (mark : Mark) :
    ∀ c ∈ mark.spelling.tail, isSeparator c = false := by
  have hAll : mark.spelling.tail.all (fun c => !isSeparator c) = true := by cases mark <;> decide
  intro c hMember
  simpa using List.all_eq_true.mp hAll c hMember

section Tokens

variable {c : Char} {text more : List Char} (hMore : StartsApart more)

include hMore

/-- No mark goes on with a separator. -/
theorem Mark.ofText?_append_apart :
    Mark.ofText? (c :: text ++ more) = Mark.ofText? (c :: text) := by
  unfold Mark.ofText?
  congr 1
  funext mark
  obtain ⟨first, rest, hSpelling⟩ := List.exists_cons_of_ne_nil mark.spelling_ne_nil
  have hRest : ∀ d ∈ rest, isSeparator d = false := by
    simpa [hSpelling] using mark.isSeparator_of_mem_tail
  rw [hSpelling, List.cons_append, List.isPrefixOf_cons_cons, List.isPrefixOf_cons_cons,
    hMore.isPrefixOf_append hRest]

/-- Everything but a quote without its partner is read as if the text ended there. -/
theorem scanLiteral_append_apart {afterDot : Bool}
    (hClosed : (scanLiteral afterDot c text).token.isOpenString = false) :
    scanLiteral afterDot c (text ++ more) =
      { scanLiteral afterDot c text with rest := (scanLiteral afterDot c text).rest ++ more } := by
  simp only [scanLiteral, head?_append_any_apart hMore.isDigit, ← List.cons_append,
    hMore.digitsRunIntoWord_append] at hClosed ⊢
  split
  · rename_i hQuote
    rw [if_pos hQuote] at hClosed
    exact scanString_append_of_closed hClosed more
  split
  · exact hMore.scanParameter_append text
  split
  · exact hMore.scanNumber_append true text
  split
  · split
    · exact hMore.scanWord_append true (c :: text)
    · exact hMore.scanNumber_append false (c :: text)
  split
  · exact hMore.scanWord_append afterDot (c :: text)
  · rfl

/-- What stands apart from a text does not change its first token, unless this is a quote without
its partner. -/
theorem scanToken_append_apart {afterDot : Bool}
    (hClosed : (scanToken afterDot c text).token.isOpenString = false) :
    scanToken afterDot c (text ++ more) =
      { scanToken afterDot c text with rest := (scanToken afterDot c text).rest ++ more } := by
  unfold scanToken at hClosed ⊢
  rw [← List.cons_append, Mark.ofText?_append_apart hMore]
  split
  · rename_i mark hMark
    have hLength := congrArg List.length (Mark.spelling_append_of_ofText? hMark)
    rw [List.length_append] at hLength
    rw [List.drop_append_of_le_length (by omega)]
  · rename_i hMark
    rw [hMark] at hClosed
    exact scanLiteral_append_apart hMore hClosed

end Tokens

end QueryOutline
