import QueryOutline.Proofs.Lexeme.Places

/-! Every token is justified by the characters that it was read from, by what stands behind them and
by whether a dot stands before them. This is the lexical grammar without the scanner: words, numbers
and parameters go on as far as they can, a quoted text ends at the first quote that is not escaped,
and a symbol is a character with which nothing else starts. -/

namespace QueryOutline

open Number Text

section Forms

/-- A run of letters, numbers and underscores that the text behind it does not go on. -/
structure IsRun (source behind : List Char) : Prop where
  ne_nil : source ≠ []
  chars : ∀ c ∈ source, isWordChar c = true
  ends : ∀ c ∈ behind.head?, isWordChar c = false

/-- A number with a sign, digits before the point and digits behind it, or without some of these.
The text behind it makes it neither longer nor, if it is nothing but digits, a word. -/
structure IsNumeral (negative : Bool) (whole fraction source behind : List Char) : Prop where
  source_eq : source = (if negative then ['-'] else []) ++ whole ++ pointDigits fraction
  whole_ne_nil : whole ≠ []
  whole_digits : ∀ c ∈ whole, c.isDigit = true
  fraction_digits : ∀ c ∈ fraction, c.isDigit = true
  ends : ∀ c ∈ behind.head?, c.isDigit = false
  no_point : fraction = [] → ∀ c rest, behind = '.' :: c :: rest → c.isDigit = false
  no_word : negative = false → fraction = [] → ∀ c ∈ behind.head?, isWordChar c = false

/-- Neither a blank nor a token of more than this character starts with the character. -/
structure StandsAlone (c : Char) (behind : List Char) : Prop where
  solid : isBlank c = false
  no_mark : ∀ mark : Mark, ¬mark.spelling <+: c :: behind
  no_quote : c ≠ '"' ∧ c ≠ '\''
  no_parameter : ∀ name, IsParameter name → ¬name <+: c :: behind
  no_digit : c.isDigit = false
  no_negative : c = '-' → ∀ d ∈ behind.head?, d.isDigit = false
  no_word : isWordStart c = false

end Forms

/-- The source of a token and the text behind it say that it is this token. `afterDot` says whether
the token before it is a dot. -/
def Token.JustifiedBy (afterDot : Bool) (source behind : List Char) : Token → Prop
  | .identifier name =>
      name.toList = source ∧ IsRun source behind ∧ IsWord source ∧
        (afterDot = false → ¬IsReserved source)
  | .keyword word =>
      afterDot = false ∧ IsRun source behind ∧ asciiUpper source = word.spelling.toList
  | .boolean value =>
      afterDot = false ∧ IsRun source behind ∧
        asciiUpper source = (if value then "TRUE" else "FALSE").toList
  | .null => afterDot = false ∧ IsRun source behind ∧ asciiUpper source = "NULL".toList
  | .parameter name =>
      name.toList = source ∧
        ∃ signs word, source = signs ++ word ∧ (signs = ['@'] ∨ signs = ['@', '@']) ∧
          IsRun word behind
  | .number value =>
      ∃ negative whole fraction, IsNumeral negative whole fraction source behind ∧
        numberToken negative whole fraction = .number value
  | .float value =>
      ∃ negative whole fraction, IsNumeral negative whole fraction source behind ∧
        numberToken negative whole fraction = .float value
  | .string value =>
      ∃ quote body, (quote = '"' ∨ quote = '\'') ∧ source = quote :: (body ++ [quote]) ∧
        QuotedBody quote body value.toList
  | .openString value =>
      behind = [] ∧
        ∃ quote body, (quote = '"' ∨ quote = '\'') ∧
          (source = quote :: body ∨ source = quote :: (body ++ ['\\'])) ∧
          QuotedBody quote body value.toList
  | .mark sign =>
      source = sign.spelling ∧
        ∀ other : Mark, other.spelling <+: source ++ behind →
          other.spelling.length ≤ sign.spelling.length
  | .symbol c => source = [c] ∧ StandsAlone c behind

section Marks

/-- The mark that is found at the start of a text is the longest one there. -/
theorem Mark.length_le_of_ofText? {text : List Char} {mark other : Mark}
    (hFound : Mark.ofText? text = some mark) (hOther : other.spelling <+: text) :
    other.spelling.length ≤ mark.spelling.length := by
  have hSorted : Mark.all.Pairwise fun first second =>
      second.spelling.length ≤ first.spelling.length := by
    decide
  obtain ⟨-, front, back, hAll, hFront⟩ := List.find?_eq_some_iff_append.mp hFound
  have hMember := other.mem_all
  rw [hAll] at hMember hSorted
  rcases List.mem_append.mp hMember with hEarlier | hLater
  · have hNot := hFront other hEarlier
    simp [List.isPrefixOf_iff_prefix.mpr hOther] at hNot
  · rcases List.mem_cons.mp hLater with rfl | hBehind
    · exact Nat.le_refl _
    · exact (List.pairwise_cons.mp (List.pairwise_append.mp hSorted).2.1).1 other hBehind

end Marks

section Words

variable {afterDot : Bool} {word behind : List Char}

/-- What is read as a word is a run: the first character that is not read could not go on with
it. -/
theorem isRun_takeWhile (text : List Char) (hSome : text.takeWhile isWordChar ≠ []) :
    IsRun (text.takeWhile isWordChar) (text.dropWhile isWordChar) where
  ne_nil := hSome
  chars := List.all_eq_true.mp List.all_takeWhile
  ends c hFirst := by
    have hEnd := List.head?_dropWhile_not isWordChar text
    rwa [hFirst] at hEnd

/-- A reserved word stands for what it is in upper case. -/
theorem reserved?_justified {token : Token} (hToken : reserved? word = some token)
    (hRun : IsRun word behind) : token.JustifiedBy false word behind := by
  simp only [reserved?, beq_iff_eq] at hToken
  split at hToken
  · cases hToken
    exact ⟨rfl, hRun, ‹_›⟩
  split at hToken
  · cases hToken
    exact ⟨rfl, hRun, ‹_›⟩
  split at hToken
  · cases hToken
    exact ⟨rfl, hRun, ‹_›⟩
  · obtain ⟨keyword, hKeyword, rfl⟩ := Option.map_eq_some_iff.mp hToken
    have hSpelling := List.find?_some hKeyword
    exact ⟨rfl, hRun, (beq_iff_eq.mp hSpelling).symm⟩

/-- Behind a dot a word is a name, and elsewhere it is one if it is not reserved. -/
theorem wordToken_justified (hRun : IsRun word behind) (hWord : IsWord word) (afterDot : Bool) :
    (wordToken afterDot word).JustifiedBy afterDot word behind := by
  cases afterDot with
  | true => exact ⟨String.toList_ofList, hRun, hWord, nofun⟩
  | false =>
      simp only [wordToken, Bool.false_eq_true, if_false]
      cases hReserved : reserved? word with
      | none =>
          exact ⟨String.toList_ofList, hRun, hWord, fun _ => reserved?_eq_none_iff.mp hReserved⟩
      | some token => exact reserved?_justified hReserved hRun

/-- Digits that go on as a word are one. -/
theorem isWord_of_digits {c : Char} {text : List Char} (hDigit : c.isDigit = true)
    (hRuns : digitsRunIntoWord (c :: text) = true) (hChars : ∀ d ∈ c :: text, isWordChar d = true) :
    IsWord (c :: text) := by
  refine ⟨hChars, .inr ?_⟩
  simp only [digitsRunIntoWord, List.dropWhile_cons_of_pos hDigit] at hRuns
  cases hRest : text.dropWhile Char.isDigit with
  | nil => simp [hRest] at hRuns
  | cons d rest =>
      refine ⟨c, text.takeWhile Char.isDigit, d, rest, ?_, ?_, ?_⟩
      · rw [← hRest, List.takeWhile_append_dropWhile]
      · exact List.forall_mem_cons.mpr ⟨hDigit, List.all_eq_true.mp List.all_takeWhile⟩
      · simpa [hRest] using List.head?_dropWhile_not Char.isDigit text

theorem scanWord_justified {c : Char} {text : List Char} (hStart : isWordStart c = true)
    (afterDot : Bool) :
    (scanWord afterDot (c :: text)).token.JustifiedBy afterDot
      (scanWord afterDot (c :: text)).source (scanWord afterDot (c :: text)).rest := by
  have hWord := List.takeWhile_cons_of_pos (l := text) (isWordChar_of_isWordStart hStart)
  have hRun := isRun_takeWhile (c :: text) (by simp [hWord])
  refine wordToken_justified hRun ⟨hRun.chars, .inl ?_⟩ afterDot
  exact ⟨c, _, hWord, hStart⟩

/-- A word that starts with digits is read as if behind a dot, but is reserved nowhere. -/
theorem scanDigits_justified {c : Char} {text : List Char} (hDigit : c.isDigit = true)
    (hRuns : digitsRunIntoWord (c :: text) = true) (afterDot : Bool) :
    (scanWord true (c :: text)).token.JustifiedBy afterDot (scanWord true (c :: text)).source
      (scanWord true (c :: text)).rest := by
  have hWord := List.takeWhile_cons_of_pos (l := text) (isWordChar_of_isDigit hDigit)
  have hRun := isRun_takeWhile (c :: text) (by simp [hWord])
  have hWithin := digitsRunIntoWord_takeWhile hRuns
  have hChars := hRun.chars
  simp only [scanWord, wordToken, if_true]
  rw [hWord] at hRun hWithin hChars ⊢
  exact ⟨String.toList_ofList, hRun, isWord_of_digits hDigit hWithin hChars,
    fun _ => not_isReserved_of_isDigit hDigit⟩

end Words

section Parameters

/-- An at sign without a word behind it, or behind a second one, starts no parameter. -/
theorem not_isParameter_of_no_word {text : List Char}
    (hNone : (text.drop ((sigil text).length - 1)).takeWhile isWordChar = []) {name : List Char}
    (hName : IsParameter name) : ¬name <+: '@' :: text := by
  rintro ⟨behind, hText⟩
  obtain ⟨signs, word, rfl, hSigns, hSome, hWord⟩ := hName
  obtain ⟨c, word, rfl⟩ := List.exists_cons_of_ne_nil hSome
  have hFirst := hWord c (List.mem_cons_self ..)
  rcases hSigns with rfl | rfl
  · obtain ⟨-, rfl⟩ := List.cons.inj hText
    simp [sigil_of_isWordChar hFirst, hFirst] at hNone
  · obtain ⟨-, rfl⟩ := List.cons.inj hText
    simp [sigil, hFirst] at hNone

/-- Without a word behind its signs, the at sign is a symbol, since no mark starts with it. -/
theorem scanParameter_justified (afterDot : Bool) (text : List Char) :
    (scanParameter text).token.JustifiedBy afterDot (scanParameter text).source
      (scanParameter text).rest := by
  simp only [scanParameter]
  split
  · rename_i hNone
    refine ⟨rfl, by decide, ?_, by decide, ?_, by decide, ?_, by decide⟩
    · rintro mark ⟨behind, hText⟩
      cases mark <;> cases hText
    · exact fun name => not_isParameter_of_no_word (List.isEmpty_iff.mp hNone)
    · exact fun hMinus => absurd hMinus (by decide)
  · rename_i hSome
    exact ⟨String.toList_ofList, _, _, rfl, sigil_cases text,
      isRun_takeWhile _ (by simpa using hSome)⟩

end Parameters

section Numbers

/-- A number ends behind a run of digits, which are those of its fraction or, if it has none, those
of its whole part. -/
theorem exists_rest_scanNumber (negative : Bool) (text : List Char) :
    ∃ digits : List Char, (scanNumber negative text).rest = digits.dropWhile Char.isDigit := by
  simp only [scanNumber]
  split
  · exact ⟨text, rfl⟩
  · rename_i hSome
    unfold fractionDigits at hSome ⊢
    split at hSome
    · rename_i digits hPoint
      exact ⟨digits, by simp [hPoint, drop_length_takeWhile]⟩
    · exact absurd rfl hSome

/-- What was read as a number has the form of one, and nothing behind it could have made it
longer. -/
theorem isNumeral_scanNumber {negative : Bool} {text : List Char}
    (hDigit : text.head?.any Char.isDigit = true)
    (hEnds : negative = false → digitsRunIntoWord text = false) :
    IsNumeral negative (text.takeWhile Char.isDigit)
      (fractionDigits (text.dropWhile Char.isDigit)) (scanNumber negative text).source
      (scanNumber negative text).rest where
  source_eq := rfl
  whole_ne_nil := by
    cases text with
    | nil => cases hDigit
    | cons c text =>
        have hFirst : c.isDigit = true := hDigit
        simp [hFirst]
  whole_digits := List.all_eq_true.mp List.all_takeWhile
  fraction_digits _ := isDigit_of_mem_fractionDigits
  ends c hFirst := by
    obtain ⟨digits, hRest⟩ := exists_rest_scanNumber negative text
    have hEnd := List.head?_dropWhile_not Char.isDigit digits
    rwa [← hRest, hFirst] at hEnd
  no_point hNone c rest hBehind := by
    simp only [scanNumber, hNone, List.isEmpty_nil, if_true, List.length_nil, List.drop_zero]
      at hBehind
    rw [hBehind] at hNone
    exact Bool.eq_false_iff.mpr fun hFirst => by simp [fractionDigits, hFirst] at hNone
  no_word hPositive hNone := by
    have hWord := hEnds hPositive
    simp only [scanNumber, hNone, List.isEmpty_nil, if_true, List.length_nil, List.drop_zero]
    simpa [digitsRunIntoWord, Option.any_eq_false] using hWord

theorem numberToken_justified {afterDot negative : Bool} {whole fraction source behind : List Char}
    (hNumeral : IsNumeral negative whole fraction source behind) :
    (numberToken negative whole fraction).JustifiedBy afterDot source behind := by
  rcases numberToken_cases negative whole fraction with ⟨value, hToken⟩ | ⟨value, hToken⟩ <;>
    rw [hToken] <;> exact ⟨negative, whole, fraction, hNumeral, hToken⟩

end Numbers

/-- The quote is closed at the first quote that is not escaped, or the text ends in it. -/
theorem scanString_justified {quote : Char} (hQuote : quote = '"' ∨ quote = '\'')
    (afterDot : Bool) (text : List Char) :
    (scanString quote text).token.JustifiedBy afterDot (scanString quote text).source
      (scanString quote text).rest := by
  obtain ⟨body, hBody, ⟨hClosed, hSource⟩ | ⟨hOpen, hRest, hSource⟩⟩ := exists_quotedBody quote text
  · simp only [scanString, hClosed, hSource, if_true]
    exact ⟨quote, body, hQuote, rfl, by rwa [String.toList_ofList]⟩
  · simp only [scanString, hOpen, hRest, Bool.false_eq_true, if_false]
    refine ⟨rfl, quote, body, hQuote, ?_, by rwa [String.toList_ofList]⟩
    exact hSource.imp (congrArg (quote :: ·)) (congrArg (quote :: ·))

/-- The token at the start of a text is justified by what it is read from. -/
theorem scanToken_justified (afterDot : Bool) {c : Char} (hSolid : isBlank c = false)
    (text : List Char) :
    (scanToken afterDot c text).token.JustifiedBy afterDot (scanToken afterDot c text).source
      (scanToken afterDot c text).rest := by
  have hCase := scanToken_cases afterDot c text
  generalize scanToken afterDot c text = scan at hCase ⊢
  cases hCase with
  | mark hMark =>
      refine ⟨rfl, fun other hOther => ?_⟩
      rw [Mark.spelling_append_of_ofText? hMark] at hOther
      exact Mark.length_le_of_ofText? hMark hOther
  | quoted hQuote => exact scanString_justified hQuote afterDot text
  | parameter hSign => exact scanParameter_justified afterDot text
  | negative hMinus hDigit => exact numberToken_justified (isNumeral_scanNumber hDigit nofun)
  | number hDigit hEnds =>
      exact numberToken_justified (isNumeral_scanNumber hDigit fun _ => hEnds)
  | digits hDigit hRuns => exact scanDigits_justified hDigit hRuns afterDot
  | word hStart => exact scanWord_justified hStart afterDot
  | symbol hMark hQuote hSign hDigit hStart hMinus =>
      refine ⟨rfl, hSolid, ?_, not_or.mp hQuote, ?_, hDigit, ?_, hStart⟩
      · intro mark hPrefix
        exact List.find?_eq_none.mp hMark mark mark.mem_all
          (List.isPrefixOf_iff_prefix.mpr hPrefix)
      · rintro name ⟨signs, word, rfl, hSigns, -, -⟩ ⟨behind, hText⟩
        rcases hSigns with rfl | rfl <;> exact hSign (List.cons.inj hText).1.symm
      · intro hChar
        simpa [hChar, Option.any_eq_false] using hMinus

/-- Every lexeme of a text is cut from a source in it that, together with the text behind it and the
token before it, says what its token is. -/
theorem lexemes_justified {text : String} {front back : List Lexeme} {lexeme : Lexeme}
    (hLexemes : lexemes text = front ++ lexeme :: back) :
    ∃ before source behind, lexeme.CutFrom text before source behind ∧
      lexeme.token.JustifiedBy (endsInDot false front) source behind := by
  obtain ⟨before, c, rest, hSolid, hToken, hCut⟩ := Lexeme.exists_cutFrom hLexemes
  refine ⟨before, _, _, hCut, ?_⟩
  rw [hToken]
  exact scanToken_justified (endsInDot false front) hSolid rest

/-- A keyword behind a dot is a name, with blanks on both sides of the dot. -/
theorem lexemes_justified_property :
    ∃ before source behind,
      Lexeme.CutFrom "é . Limit;" before source behind ⟨.identifier "Limit", 5, 10⟩ ∧
        Token.JustifiedBy true source behind (.identifier "Limit") :=
  @lexemes_justified "é . Limit;" [⟨.identifier "é", 0, 2⟩, ⟨.mark .dot, 3, 4⟩]
    [⟨.symbol ';', 10, 11⟩] ⟨.identifier "Limit", 5, 10⟩ (by decide +kernel)

end QueryOutline
