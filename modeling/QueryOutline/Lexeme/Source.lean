import QueryOutline.Lexeme.Scanner

/-! What a token was read from. The source of a token and the characters after it are the text that
was scanned, and no source is empty, so that every step of the scanner makes progress. -/

namespace QueryOutline

open Text

/-- What is left behind the longest run of characters of a class. -/
theorem drop_length_takeWhile (p : Char → Bool) (text : List Char) :
    text.drop (text.takeWhile p).length = text.dropWhile p := by
  have hDrop : (text.takeWhile p ++ text.dropWhile p).drop (text.takeWhile p).length = _ :=
    List.drop_left
  rwa [List.takeWhile_append_dropWhile] at hDrop

/-- Escapes are kept in the source, also a backslash at the very end. -/
theorem scanQuoted_append (quote : Char) (text : List Char) :
    (scanQuoted quote text).source ++ (scanQuoted quote text).rest = text := by
  fun_induction scanQuoted quote text with
  | case1 => rfl
  | case2 text => rfl
  | case3 => rfl
  | case4 _ escaped text more ih => simpa using ih
  | case5 c text _ _ more ih => simpa using ih

theorem scanString_append (quote : Char) (text : List Char) :
    (scanString quote text).source ++ (scanString quote text).rest = quote :: text := by
  simp [scanString, scanQuoted_append]

/-- The digits behind a point are followed by what is left when they are taken away. -/
theorem fractionDigits_append (text : List Char) (hDigits : fractionDigits text ≠ []) :
    '.' :: fractionDigits text ++ text.drop (fractionDigits text).length.succ = text := by
  unfold fractionDigits at hDigits ⊢
  split at hDigits
  · simp [drop_length_takeWhile]
  · exact absurd rfl hDigits

/-- The minus sign was taken before the digits, and it belongs to the source. -/
theorem scanNumber_append (negative : Bool) (text : List Char) :
    (scanNumber negative text).source ++ (scanNumber negative text).rest =
      (if negative then ['-'] else []) ++ text := by
  have hDigits := List.takeWhile_append_dropWhile (p := Char.isDigit) (l := text)
  simp only [scanNumber, List.append_assoc, List.append_cancel_left_eq]
  conv => rhs; rw [← hDigits]
  rw [List.append_cancel_left_eq]
  by_cases hFraction : fractionDigits (text.dropWhile Char.isDigit) = []
  · simp [hFraction]
  · simpa [hFraction] using fractionDigits_append _ hFraction

theorem scanWord_append (afterDot : Bool) (text : List Char) :
    (scanWord afterDot text).source ++ (scanWord afterDot text).rest = text := by
  simp [scanWord]

/-- The first at sign was taken before, and it belongs to the source of the parameter as to that of
the symbol. -/
theorem scanParameter_append (text : List Char) :
    (scanParameter text).source ++ (scanParameter text).rest = '@' :: text := by
  simp only [scanParameter]
  split
  · rfl
  · rcases text with _ | ⟨c, text⟩
    · rfl
    · by_cases hSign : c = '@'
      · subst hSign
        simp [sigil]
      · simp [sigil, hSign]

/-- Every kind of token but a mark, with the first character as part of the text. -/
theorem scanLiteral_append (afterDot : Bool) (c : Char) (text : List Char) :
    (scanLiteral afterDot c text).source ++ (scanLiteral afterDot c text).rest = c :: text := by
  unfold scanLiteral
  split
  · exact scanString_append c text
  split
  · rename_i hSign
    subst hSign
    exact scanParameter_append text
  split
  · rename_i hMinus
    obtain ⟨rfl, _⟩ := hMinus
    exact scanNumber_append true text
  split
  · split
    · exact scanWord_append true (c :: text)
    · exact scanNumber_append false (c :: text)
  split
  · exact scanWord_append afterDot (c :: text)
  · rfl

/-- A mark that was found is where the text starts. -/
theorem Mark.spelling_append_of_ofText? {mark : Mark} {text : List Char}
    (hFound : Mark.ofText? text = some mark) :
    mark.spelling ++ text.drop mark.spelling.length = text := by
  have hStart := List.find?_some hFound
  have hPrefix : mark.spelling <+: text := List.isPrefixOf_iff_prefix.mp hStart
  obtain ⟨rest, rfl⟩ := hPrefix
  simp

/-- The source of a token and the characters after it are the text that was scanned. -/
theorem scanToken_append (afterDot : Bool) (c : Char) (text : List Char) :
    (scanToken afterDot c text).source ++ (scanToken afterDot c text).rest = c :: text := by
  unfold scanToken
  split
  · rename_i mark hFound
    exact Mark.spelling_append_of_ofText? hFound
  · exact scanLiteral_append afterDot c text

/-- The kinds of tokens that a text can start with, each with what tells it apart from the others.
-/
inductive ScanCase (afterDot : Bool) (c : Char) (text : List Char) : Scan → Prop where
  | mark {mark : Mark} (hMark : Mark.ofText? (c :: text) = some mark) :
      ScanCase afterDot c text ⟨.mark mark, mark.spelling, (c :: text).drop mark.spelling.length⟩
  | quoted (hQuote : c = '"' ∨ c = '\'') : ScanCase afterDot c text (scanString c text)
  | parameter (hSign : c = '@') : ScanCase afterDot c text (scanParameter text)
  | negative (hMinus : c = '-') (hDigit : text.head?.any Char.isDigit = true) :
      ScanCase afterDot c text (scanNumber true text)
  | number (hDigit : c.isDigit = true) (hEnds : digitsRunIntoWord (c :: text) = false) :
      ScanCase afterDot c text (scanNumber false (c :: text))
  | digits (hDigit : c.isDigit = true) (hRuns : digitsRunIntoWord (c :: text) = true) :
      ScanCase afterDot c text (scanWord true (c :: text))
  | word (hStart : isWordStart c = true) : ScanCase afterDot c text (scanWord afterDot (c :: text))
  | symbol (hMark : Mark.ofText? (c :: text) = none) (hQuote : ¬(c = '"' ∨ c = '\''))
      (hSign : c ≠ '@') (hDigit : c.isDigit = false) (hStart : isWordStart c = false)
      (hMinus : ¬(c = '-' ∧ text.head?.any Char.isDigit = true)) :
      ScanCase afterDot c text ⟨.symbol c, [c], text⟩

/-- Every token is of one of these kinds. -/
theorem scanToken_cases (afterDot : Bool) (c : Char) (text : List Char) :
    ScanCase afterDot c text (scanToken afterDot c text) := by
  unfold scanToken
  split
  · exact .mark ‹_›
  rename_i hMark
  unfold scanLiteral
  split
  · exact .quoted ‹_›
  rename_i hQuote
  split
  · exact .parameter ‹_›
  rename_i hSign
  split
  · rename_i hMinus
    exact .negative hMinus.1 hMinus.2
  rename_i hMinus
  split
  · rename_i hDigit
    split
    · exact .digits hDigit ‹_›
    · rename_i hEnds
      exact .number hDigit (by simpa using hEnds)
  rename_i hDigit
  split
  · exact .word ‹_›
  · rename_i hStart
    exact .symbol hMark hQuote hSign (by simpa using hDigit) (by simpa using hStart) hMinus

theorem isWordChar_of_isDigit {c : Char} (hDigit : c.isDigit = true) : isWordChar c = true := by
  have hAscii : isAscii c = true := by
    simp only [Char.isDigit, Bool.and_eq_true, decide_eq_true_eq, UInt32.le_iff_toNat_le] at hDigit
    have hLast : c.toNat ≤ 57 := hDigit.2
    simp only [isAscii, decide_eq_true_eq]
    omega
  simp [isWordChar, isAlphanumeric, isNumeric, hAscii, hDigit]

theorem isWordChar_of_isWordStart {c : Char} (hStart : isWordStart c = true) :
    isWordChar c = true := by
  simp only [isWordStart, Bool.or_eq_true] at hStart
  simp only [isWordChar, isAlphanumeric, Bool.or_eq_true]
  exact hStart.imp_left Or.inl

/-- The first character of a word is one of its characters. -/
theorem scanWord_source_ne_nil (afterDot : Bool) {c : Char} (text : List Char)
    (hWord : isWordChar c = true) : (scanWord afterDot (c :: text)).source ≠ [] := by
  simp [scanWord, hWord]

theorem scanNumber_source_ne_nil {c : Char} (text : List Char) (hDigit : c.isDigit = true) :
    (scanNumber false (c :: text)).source ≠ [] := by
  simp [scanNumber, hDigit]

theorem sigil_ne_nil (text : List Char) : sigil text ≠ [] := by
  unfold sigil
  split <;> exact List.cons_ne_nil _ _

theorem scanParameter_source_ne_nil (text : List Char) : (scanParameter text).source ≠ [] := by
  simp only [scanParameter]
  split
  · exact List.cons_ne_nil _ _
  · exact List.append_ne_nil_of_left_ne_nil (sigil_ne_nil text) _

/-- Whatever starts no mark gives a token of at least one character, be it a symbol. -/
theorem scanLiteral_source_ne_nil (afterDot : Bool) (c : Char) (text : List Char) :
    (scanLiteral afterDot c text).source ≠ [] := by
  unfold scanLiteral
  split
  · simp [scanString]
  split
  · exact scanParameter_source_ne_nil text
  split
  · simp [scanNumber]
  split
  · rename_i hDigit
    split
    · exact scanWord_source_ne_nil true text (isWordChar_of_isDigit hDigit)
    · exact scanNumber_source_ne_nil text hDigit
  split
  · rename_i hStart
    exact scanWord_source_ne_nil afterDot text (isWordChar_of_isWordStart hStart)
  · simp

theorem Mark.spelling_ne_nil (mark : Mark) : mark.spelling ≠ [] := by
  cases mark <;> simp [Mark.spelling]

/-- No token is read from nothing. -/
theorem scanToken_source_ne_nil (afterDot : Bool) (c : Char) (text : List Char) :
    (scanToken afterDot c text).source ≠ [] := by
  unfold scanToken
  split
  · exact Mark.spelling_ne_nil _
  · exact scanLiteral_source_ne_nil afterDot c text

/-- There is less text behind a token than there was in front of it. -/
theorem scanToken_rest_length_lt (afterDot : Bool) (c : Char) (text : List Char) :
    (scanToken afterDot c text).rest.length < (c :: text).length := by
  have hLength := congrArg List.length (scanToken_append afterDot c text)
  have hPositive := List.length_pos_iff.mpr (scanToken_source_ne_nil afterDot c text)
  rw [List.length_append] at hLength
  omega

namespace Scanner

/-- Every lexeme makes the text shorter, so that no bound on the number of lexemes is needed beyond
the length of the text. -/
theorem next_rest_length_lt {scanner after : Scanner} {lexeme : Lexeme}
    (hNext : scanner.next = (some lexeme, after)) : after.rest.length < scanner.rest.length := by
  have hBlanks := congrArg List.length
    (List.takeWhile_append_dropWhile (p := isBlank) (l := scanner.rest))
  rw [List.length_append] at hBlanks
  unfold next at hNext
  split at hNext
  · simp at hNext
  · rename_i c text hText
    obtain ⟨-, rfl⟩ := Prod.mk.inj hNext
    have hShorter := scanToken_rest_length_lt scanner.afterDot c text
    rw [hText] at hBlanks
    change (scanToken scanner.afterDot c text).rest.length < _
    omega

/-- More rounds than there are characters find no more lexemes. -/
theorem lexemesWithin_of_le {rounds : Nat} {scanner : Scanner}
    (hEnough : scanner.rest.length ≤ rounds) :
    scanner.lexemesWithin rounds = scanner.lexemes := by
  suffices hSame : ∀ (bound : Nat) (scanner : Scanner) (first second : Nat),
      scanner.rest.length ≤ bound → scanner.rest.length ≤ first → scanner.rest.length ≤ second →
      scanner.lexemesWithin first = scanner.lexemesWithin second from
    hSame _ scanner _ _ (Nat.le_refl _) hEnough (Nat.le_refl _)
  intro bound
  induction bound with
  | zero =>
      intro scanner first second hBound _ _
      have hRest : scanner.rest = [] := List.length_eq_zero_iff.mp (by omega)
      have hNext : scanner.next.1 = none := by simp [next, hRest]
      have hNone : ∀ rounds, scanner.lexemesWithin rounds = [] := by
        intro rounds
        cases rounds with
        | zero => rfl
        | succ rounds =>
            unfold lexemesWithin
            split
            · rfl
            · rename_i hSome
              simp [hSome] at hNext
      rw [hNone, hNone]
  | succ bound ih =>
      intro scanner first second hBound hFirst hSecond
      rcases hRest : scanner.next with ⟨lexeme, after⟩
      cases lexeme with
      | none =>
          have hNone : ∀ rounds, scanner.lexemesWithin rounds = [] := by
            intro rounds
            cases rounds with
            | zero => rfl
            | succ rounds => simp [lexemesWithin, hRest]
          rw [hNone, hNone]
      | some lexeme =>
          have hShorter := next_rest_length_lt hRest
          obtain ⟨first, rfl⟩ : ∃ n, first = n + 1 := ⟨first - 1, by omega⟩
          obtain ⟨second, rfl⟩ : ∃ n, second = n + 1 := ⟨second - 1, by omega⟩
          simp only [lexemesWithin, hRest]
          rw [ih after first second (by omega) (by omega) (by omega)]

/-- The lexemes of a scanner are its next lexeme and those of the scanner behind it. -/
theorem lexemes_eq (scanner : Scanner) :
    scanner.lexemes =
      match scanner.next with
      | (none, _) => []
      | (some lexeme, after) => lexeme :: after.lexemes := by
  rcases hNext : scanner.next with ⟨lexeme, after⟩
  cases lexeme with
  | none =>
      rw [← lexemesWithin_of_le (Nat.le_succ _)]
      simp [lexemesWithin, hNext]
  | some lexeme =>
      have hShorter := next_rest_length_lt hNext
      rw [← lexemesWithin_of_le (Nat.le_succ _)]
      simp only [lexemesWithin, hNext]
      rw [lexemesWithin_of_le (by omega)]

section Steps

variable {c : Char} {text : List Char} {offset : Nat} {afterDot : Bool}

@[simp]
theorem lexemes_nil : (Scanner.mk [] offset afterDot).lexemes = [] := rfl

theorem lexemes_blank (hBlank : isBlank c = true) :
    (Scanner.mk (c :: text) offset afterDot).lexemes =
      (Scanner.mk text (offset + c.utf8Size) afterDot).lexemes := by
  rw [lexemes_eq, lexemes_eq]
  simp only [next, List.takeWhile_cons_of_pos hBlank, List.dropWhile_cons_of_pos hBlank, byteSize,
    Nat.add_assoc]

/-- Where no blank stands, a token is scanned, and the scanner goes on behind its source. -/
theorem lexemes_solid (hSolid : isBlank c = false) :
    (Scanner.mk (c :: text) offset afterDot).lexemes =
      let scan := scanToken afterDot c text
      let stop := offset + byteSize scan.source
      ⟨scan.token, offset, stop⟩ ::
        (Scanner.mk scan.rest stop (scan.token == .mark .dot)).lexemes := by
  rw [lexemes_eq]
  simp [next, hSolid, byteSize]

/-- What holds at the end of a text, is kept if a blank is put in front, and is kept if a token is
put in front, holds of every scanner. -/
theorem induction {motive : List Char → Nat → Bool → Prop}
    (hEnd : ∀ offset afterDot, motive [] offset afterDot)
    (hBlank : ∀ c text offset afterDot, isBlank c = true →
      motive text (offset + c.utf8Size) afterDot → motive (c :: text) offset afterDot)
    (hSolid : ∀ c text offset afterDot, isBlank c = false →
      motive (scanToken afterDot c text).rest
        (offset + byteSize (scanToken afterDot c text).source)
        ((scanToken afterDot c text).token == .mark .dot) →
      motive (c :: text) offset afterDot)
    (text : List Char) (offset : Nat) (afterDot : Bool) : motive text offset afterDot := by
  induction hLength : text.length using Nat.strongRecOn generalizing text offset afterDot with
  | ind length ih =>
      cases text with
      | nil => exact hEnd offset afterDot
      | cons c text =>
          have hShorter := scanToken_rest_length_lt afterDot c text
          rw [hLength] at hShorter
          cases hClass : isBlank c with
          | true =>
              have hTail : text.length < length := by simp [← hLength]
              exact hBlank c text offset afterDot hClass (ih _ hTail _ _ _ rfl)
          | false => exact hSolid c text offset afterDot hClass (ih _ hShorter _ _ _ rfl)

end Steps

end Scanner

end QueryOutline
