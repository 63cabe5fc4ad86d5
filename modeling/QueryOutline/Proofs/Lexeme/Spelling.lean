import Mathlib.Data.List.TakeWhile
import QueryOutline.Proofs.Lexeme.Quotes
import QueryOutline.Proofs.Number.DecimalText
import QueryOutline.Proofs.Writing.Pieces

/-! How tokens are spelled: by words that are scanned as one token, and exactly as far as they go.
What a token was read from spells it, and so do the names, parameters and literals that are written
for it. -/

namespace QueryOutline

open Number Text

/-- The whole word is scanned as the token, and no blank is before it. -/
def Spells (afterDot : Bool) (word : List Char) (token : Token) : Prop :=
  ∃ c rest, word = c :: rest ∧ isBlank c = false ∧ scanToken afterDot c rest = ⟨token, word, []⟩

/-- A word is scanned as the token that it spells wherever it stands apart from what is behind
it. -/
theorem Spells.exists_scanToken {afterDot : Bool} {word : List Char} {token : Token}
    (hSpells : Spells afterDot word token) (hClosed : token.isOpenString = false) :
    ∃ c rest, word = c :: rest ∧ isBlank c = false ∧
      ∀ more, StartsApart more → scanToken afterDot c (rest ++ more) = ⟨token, word, more⟩ := by
  obtain ⟨c, rest, rfl, hBlank, hScan⟩ := hSpells
  refine ⟨c, rest, rfl, hBlank, ?_⟩
  intro more hMore
  rw [scanToken_append_apart hMore (by simpa [hScan] using hClosed), hScan, List.nil_append]

section Marks

/-- A mark of two characters is scanned before the mark that is its first character, and a single
one has nothing behind it here. -/
theorem spells_mark (afterDot : Bool) (mark : Mark) :
    Spells afterDot mark.spelling (.mark mark) := by
  cases mark <;> exact ⟨_, _, rfl, by decide, rfl⟩

/-- A text that starts with a character with which no mark starts has no mark at its start. -/
theorem Mark.ofText?_eq_none {c : Char} {text : List Char}
    (hStart : ∀ mark : Mark, mark.spelling.head? ≠ some c) : Mark.ofText? (c :: text) = none := by
  apply List.find?_eq_none.mpr
  intro mark _ hPrefix
  obtain ⟨first, rest, hSpelling⟩ := List.exists_cons_of_ne_nil mark.spelling_ne_nil
  rw [hSpelling, List.isPrefixOf_cons_cons, Bool.and_eq_true, beq_iff_eq] at hPrefix
  exact hStart mark (by simp [hSpelling, hPrefix.1])

/-- Marks come first in the scanner, so that everything else has to start with a character that
starts none of them. -/
theorem scanToken_eq_scanLiteral {c : Char} (hStart : ∀ mark : Mark, mark.spelling.head? ≠ some c)
    (afterDot : Bool) (text : List Char) :
    scanToken afterDot c text = scanLiteral afterDot c text := by
  simp only [scanToken, Mark.ofText?_eq_none hStart]

theorem Mark.head?_ne_of_isWordChar {c : Char} (hWord : isWordChar c = true) (mark : Mark) :
    mark.spelling.head? ≠ some c := by
  intro hHead
  cases mark <;> cases hHead <;> exact absurd hWord (by decide)

end Marks

section Words

variable {c : Char} {text word : List Char}

/-- A word takes all of its characters, as no other stands behind them. -/
theorem scanWord_eq_self (afterDot : Bool) (hWord : ∀ c ∈ word, isWordChar c = true) :
    scanWord afterDot word = ⟨wordToken afterDot word, word, []⟩ := by
  simp only [scanWord, List.takeWhile_eq_self_iff.mpr hWord, List.dropWhile_eq_nil_iff.mpr hWord]

/-- A character of words starts no quoted text, no parameter and no negative number. -/
theorem ne_of_isWordChar (hWord : isWordChar c = true) :
    ¬(c = '"' ∨ c = '\'') ∧ c ≠ '@' ∧ c ≠ '-' := by
  refine ⟨?_, ?_, ?_⟩
  · rintro (rfl | rfl) <;> exact absurd hWord (by decide)
  · intro hSame
    subst hSame
    exact absurd hWord (by decide)
  · intro hSame
    subst hSame
    exact absurd hWord (by decide)

/-- What starts a word starts nothing else, neither a string nor a number nor a parameter. -/
theorem scanLiteral_of_isWordStart (hStart : isWordStart c = true) (afterDot : Bool)
    (text : List Char) : scanLiteral afterDot c text = scanWord afterDot (c :: text) := by
  obtain ⟨hQuote, hSign, hMinus⟩ := ne_of_isWordChar (isWordChar_of_isWordStart hStart)
  have hNoDigit : c.isDigit = false :=
    Bool.eq_false_iff.mpr fun hDigit => by simp [isWordStart_of_isDigit hDigit] at hStart
  simp [scanLiteral, hQuote, hSign, hMinus, hNoDigit, hStart]

/-- Digits are looked through to the end before it is decided whether they are a number or a
name. -/
theorem scanLiteral_of_isDigit (hDigit : c.isDigit = true) (afterDot : Bool) (text : List Char) :
    scanLiteral afterDot c text =
      if digitsRunIntoWord (c :: text) then scanWord true (c :: text)
      else scanNumber false (c :: text) := by
  obtain ⟨hQuote, hSign, hMinus⟩ := ne_of_isWordChar (isWordChar_of_isDigit hDigit)
  simp [scanLiteral, hQuote, hSign, hMinus, hDigit]

/-- A word that starts with a letter or an underscore is scanned as what it stands for. -/
theorem spells_wordStart (afterDot : Bool) (hStart : isWordStart c = true)
    (hChars : ∀ d ∈ c :: text, isWordChar d = true) :
    Spells afterDot (c :: text) (wordToken afterDot (c :: text)) := by
  have hWord := isWordChar_of_isWordStart hStart
  refine ⟨c, text, rfl, isBlank_of_isWordChar hWord, ?_⟩
  rw [scanToken_eq_scanLiteral (Mark.head?_ne_of_isWordChar hWord),
    scanLiteral_of_isWordStart hStart, scanWord_eq_self afterDot hChars]

/-- A word that starts with digits and goes on as something else is scanned as a name. -/
theorem spells_digits (afterDot : Bool) (hDigit : c.isDigit = true)
    (hRuns : digitsRunIntoWord (c :: text) = true)
    (hChars : ∀ d ∈ c :: text, isWordChar d = true) :
    Spells afterDot (c :: text) (.identifier (String.ofList (c :: text))) := by
  have hWord := isWordChar_of_isDigit hDigit
  refine ⟨c, text, rfl, isBlank_of_isWordChar hWord, ?_⟩
  rw [scanToken_eq_scanLiteral (Mark.head?_ne_of_isWordChar hWord), scanLiteral_of_isDigit hDigit,
    if_pos hRuns, scanWord_eq_self true hChars]
  rfl

/-- Digits that run into a word do so within the word. -/
theorem digitsRunIntoWord_takeWhile (hRuns : digitsRunIntoWord text = true) :
    digitsRunIntoWord (text.takeWhile isWordChar) = true := by
  induction text with
  | nil => cases hRuns
  | cons c text ih =>
      by_cases hDigit : c.isDigit = true
      · have hRest : digitsRunIntoWord text = true := by
          simpa [digitsRunIntoWord, hDigit] using hRuns
        simpa [digitsRunIntoWord, hDigit, isWordChar_of_isDigit hDigit] using ih hRest
      · have hWord : isWordChar c = true := by simpa [digitsRunIntoWord, hDigit] using hRuns
        simp [digitsRunIntoWord, hDigit, hWord]

/-- A word is scanned as a name behind a dot, and elsewhere if it has no meaning of its own. -/
theorem IsWord.spells (hWord : IsWord word) {afterDot : Bool}
    (hFree : afterDot = true ∨ ¬IsReserved word) :
    Spells afterDot word (.identifier (String.ofList word)) := by
  obtain ⟨hChars, hForm⟩ := hWord
  obtain ⟨c, rest, rfl, hStart⟩ | ⟨digit, digits, c, rest, rfl, hDigits, hEnd⟩ := hForm
  · have hToken : wordToken afterDot (c :: rest) = .identifier (String.ofList (c :: rest)) := by
      rcases hFree with rfl | hFree
      · rfl
      · simp [wordToken, reserved?_eq_none_iff.mpr hFree]
    rw [← hToken]
    exact spells_wordStart afterDot hStart hChars
  · have hRuns : digitsRunIntoWord (digit :: (digits ++ c :: rest)) = true := by
      rw [digitsRunIntoWord, ← List.cons_append, List.dropWhile_append_of_pos hDigits]
      simp [hEnd, hChars c (by simp)]
    exact spells_digits afterDot (hDigits digit (by simp)) hRuns hChars

/-- Behind a dot, reserved words are names as well. -/
theorem IsWord.spells_property {name : String} (hWord : IsWord name.toList) :
    Spells true name.toList (.identifier name) := by
  simpa using hWord.spells (.inl rfl)

theorem IsName.spells {name : String} (hName : IsName name.toList) :
    Spells false name.toList (.identifier name) := by
  simpa using hName.1.spells (.inr hName.2)

/-- Keywords are among the reserved words, in upper case already. -/
theorem spells_keyword (word : Keyword) : Spells false word.spelling.toList (.keyword word) := by
  have hToken : wordToken false word.spelling.toList = .keyword word := by cases word <;> rfl
  rw [← hToken]
  cases word <;> exact spells_wordStart false (by decide) (List.all_eq_true.mp (by decide))

end Words

section Parameters

variable {c : Char} {text word : List Char}

theorem sigil_of_isWordChar (hWord : isWordChar c = true) : sigil (c :: text) = ['@'] := by
  unfold sigil
  split
  · rename_i hSign
    obtain ⟨rfl, -⟩ := List.cons.inj hSign
    exact absurd hWord (by decide)
  · rfl

/-- A parameter by itself takes its signs and all of the word behind them. -/
theorem scanParameter_eq_self {signs : List Char} (hSigns : sigil text = signs)
    (hText : text.drop (signs.length - 1) = word) (hSome : word ≠ [])
    (hWord : ∀ c ∈ word, isWordChar c = true) :
    scanParameter text = ⟨.parameter (String.ofList (signs ++ word)), signs ++ word, []⟩ := by
  simp [scanParameter, hSigns, hText, List.takeWhile_eq_self_iff.mpr hWord,
    List.dropWhile_eq_nil_iff.mpr hWord, hSome]

theorem scanToken_sign (afterDot : Bool) (text : List Char) :
    scanToken afterDot '@' text = scanParameter text := by
  rw [scanToken_eq_scanLiteral (fun mark => by cases mark <;> decide)]
  simp [scanLiteral]

/-- One sign or two, and a word behind them, are scanned as one parameter. -/
theorem spells_parameter (afterDot : Bool) {signs : List Char}
    (hSigns : signs = ['@'] ∨ signs = ['@', '@']) (hSome : word ≠ [])
    (hWord : ∀ c ∈ word, isWordChar c = true) :
    Spells afterDot (signs ++ word) (.parameter (String.ofList (signs ++ word))) := by
  obtain ⟨c, rest, rfl⟩ := List.exists_cons_of_ne_nil hSome
  rcases hSigns with rfl | rfl
  · have hSigil : sigil (c :: rest) = ['@'] := sigil_of_isWordChar (hWord c (by simp))
    refine ⟨'@', c :: rest, rfl, by decide, ?_⟩
    exact (scanToken_sign afterDot _).trans (scanParameter_eq_self hSigil rfl hSome hWord)
  · have hSigil : sigil ('@' :: c :: rest) = ['@', '@'] := rfl
    refine ⟨'@', '@' :: c :: rest, rfl, by decide, ?_⟩
    exact (scanToken_sign afterDot _).trans (scanParameter_eq_self hSigil rfl hSome hWord)

theorem IsParameter.spells {name : String} (hParameter : IsParameter name.toList)
    (afterDot : Bool) : Spells afterDot name.toList (.parameter name) := by
  obtain ⟨signs, word, hName, hSigns, hSome, hWord⟩ := hParameter
  have hSpells := spells_parameter afterDot hSigns hSome hWord
  rw [← hName] at hSpells
  simpa using hSpells

/-- Without a word the sign was scanned as a symbol. Then it spells the symbol, whatever stood
behind it. -/
theorem spells_scanParameter (afterDot : Bool) (text : List Char) :
    Spells afterDot (scanParameter text).source (scanParameter text).token := by
  unfold scanParameter
  simp only
  split
  · exact ⟨'@', [], rfl, by decide, rfl⟩
  · rename_i hSome
    exact spells_parameter afterDot (sigil_cases text) (by simpa using hSome)
      (List.all_eq_true.mp List.all_takeWhile)

end Parameters

section Numbers

variable {whole fraction : List Char}

def pointDigits (fraction : List Char) : List Char :=
  if fraction.isEmpty then [] else '.' :: fraction

/-- Behind the whole part stands a point or nothing, and neither goes on with a word. -/
theorem pointDigits_head (fraction : List Char) :
    ∀ c ∈ (pointDigits fraction).head?, isWordChar c = false := by
  unfold pointDigits
  split
  · exact nofun
  · rintro _ ⟨⟩
    decide

theorem pointDigits_head_isDigit (fraction : List Char) :
    ∀ c ∈ (pointDigits fraction).head?, c.isDigit = false :=
  fun c hFirst => Bool.eq_false_iff.mpr fun hDigit => by
    simpa [isWordChar_of_isDigit hDigit] using pointDigits_head fraction c hFirst

/-- The fraction is read back from behind its point. Without digits there is no point to read. -/
theorem fractionDigits_pointDigits (hFraction : ∀ c ∈ fraction, c.isDigit = true) :
    fractionDigits (pointDigits fraction) = fraction := by
  unfold pointDigits
  split
  · rename_i hNone
    exact (List.isEmpty_iff.mp hNone).symm
  · exact List.takeWhile_eq_self_iff.mpr hFraction

section

variable (hWhole : ∀ c ∈ whole, c.isDigit = true)

include hWhole

theorem dropWhile_whole_append :
    (whole ++ pointDigits fraction).dropWhile Char.isDigit = pointDigits fraction := by
  rw [dropWhile_append_apart (pointDigits_head_isDigit fraction),
    List.dropWhile_eq_nil_iff.mpr hWhole, List.nil_append]

/-- A written number is not taken for a name that starts with digits. -/
theorem digitsRunIntoWord_whole_append :
    digitsRunIntoWord (whole ++ pointDigits fraction) = false := by
  rw [digitsRunIntoWord, dropWhile_whole_append hWhole, Option.any_eq_false]
  simpa using pointDigits_head fraction

/-- A number takes its whole part, and the point if digits are behind it. -/
theorem scanNumber_eq_self (hFraction : ∀ c ∈ fraction, c.isDigit = true) (negative : Bool) :
    scanNumber negative (whole ++ pointDigits fraction) =
      ⟨numberToken negative whole fraction,
        (if negative then ['-'] else []) ++ whole ++ pointDigits fraction, []⟩ := by
  have hTake : (whole ++ pointDigits fraction).takeWhile Char.isDigit = whole := by
    rw [takeWhile_append_apart (pointDigits_head_isDigit fraction),
      List.takeWhile_eq_self_iff.mpr hWhole]
  simp only [scanNumber, hTake, dropWhile_whole_append hWhole,
    fractionDigits_pointDigits hFraction]
  rw [← pointDigits, List.drop_length]

end

/-- A minus sign in front of a digit is part of the number, and digits without one are looked
through first. -/
theorem spells_number (afterDot negative : Bool) (hSome : whole ≠ [])
    (hWhole : ∀ c ∈ whole, c.isDigit = true) (hFraction : ∀ c ∈ fraction, c.isDigit = true) :
    Spells afterDot ((if negative then ['-'] else []) ++ whole ++ pointDigits fraction)
      (numberToken negative whole fraction) := by
  obtain ⟨c, rest, rfl⟩ := List.exists_cons_of_ne_nil hSome
  have hDigit := hWhole c (List.mem_cons_self ..)
  have hWord := isWordChar_of_isDigit hDigit
  cases negative with
  | true =>
      refine ⟨'-', c :: rest ++ pointDigits fraction, rfl, by decide, ?_⟩
      rw [scanToken_eq_scanLiteral (fun mark => by cases mark <;> decide),
        ← scanNumber_eq_self hWhole hFraction true]
      simp [scanLiteral, hDigit]
  | false =>
      refine ⟨c, rest ++ pointDigits fraction, by simp, isBlank_of_isWordChar hWord, ?_⟩
      rw [scanToken_eq_scanLiteral (Mark.head?_ne_of_isWordChar hWord),
        scanLiteral_of_isDigit hDigit, ← List.cons_append, digitsRunIntoWord_whole_append hWhole,
        ← scanNumber_eq_self hWhole hFraction false]
      simp

theorem isDigit_of_mem_fractionDigits {c : Char} {text : List Char}
    (hMember : c ∈ fractionDigits text) : c.isDigit = true := by
  unfold fractionDigits at hMember
  split at hMember
  · exact List.all_eq_true.mp List.all_takeWhile c hMember
  · cases hMember

/-- What was read as a number spells it again: the digits of the source end where the source
ends. -/
theorem spells_scanNumber (afterDot negative : Bool) {text : List Char}
    (hDigit : text.head?.any Char.isDigit = true) :
    Spells afterDot (scanNumber negative text).source (scanNumber negative text).token := by
  refine spells_number afterDot negative ?_ (List.all_eq_true.mp List.all_takeWhile)
    fun c => isDigit_of_mem_fractionDigits
  cases text with
  | nil => cases hDigit
  | cons c text =>
      have hFirst : c.isDigit = true := hDigit
      simp [hFirst]

/-- A decimal is read back from its own digits with all its places, zeros at the end included. -/
theorem numberToken_digits (d : Decimal) :
    numberToken (decide (d.unscaled < 0)) d.whole d.fraction = .number d := by
  simp only [numberToken, d.ofNumeral?_digits]

/-- The text of a decimal is the sign, the digits before the point and those behind it. -/
theorem spells_decimal (afterDot : Bool) (d : Decimal) : Spells afterDot d.chars (.number d) := by
  have hFraction : ∀ c ∈ d.fraction, c.isDigit = true := fun c => Decimal.isDigit_of_mem_fraction
  have hSpells := spells_number afterDot (decide (d.unscaled < 0)) d.whole_ne_nil
    (fun c => Decimal.isDigit_of_mem_whole) hFraction
  simpa [numberToken_digits, Decimal.chars_eq, Decimal.pointed_eq, pointDigits] using hSpells

end Numbers

section Quotes

/-- The content of a quoted text is read from its source again, also if the quote has no partner. -/
theorem scanQuoted_source (quote : Char) (text : List Char) :
    scanQuoted quote (scanQuoted quote text).source =
      { scanQuoted quote text with rest := [] } := by
  fun_induction scanQuoted quote text with
  | case1 => rfl
  | case2 text => exact scanQuoted_quote quote []
  | case3 hQuote =>
      rw [scanQuoted.eq_def]
      simp [hQuote]
  | case4 escaped text scan hQuote ih => rw [scanQuoted_backslash (Ne.symm hQuote), ih]
  | case5 c text hQuote hPlain scan ih => rw [scanQuoted_plain hQuote hPlain, ih]

theorem scanToken_quote {quote : Char} (hQuote : quote = '"' ∨ quote = '\'') (afterDot : Bool)
    (text : List Char) : scanToken afterDot quote text = scanString quote text := by
  have hStart : ∀ mark : Mark, mark.spelling.head? ≠ some quote := by
    intro mark
    rcases hQuote with rfl | rfl <;> cases mark <;> decide
  rw [scanToken_eq_scanLiteral hStart, scanLiteral, if_pos hQuote]

/-- What was read as a string spells it again, also without its closing quote. -/
theorem spells_scanString (afterDot : Bool) {quote : Char} (hQuote : quote = '"' ∨ quote = '\'')
    (text : List Char) :
    Spells afterDot (scanString quote text).source (scanString quote text).token := by
  refine ⟨quote, (scanQuoted quote text).source, rfl, ?_, ?_⟩
  · rcases hQuote with rfl | rfl <;> decide
  · rw [scanToken_quote hQuote]
    simp only [scanString, scanQuoted_source]

/-- What was escaped stands for what it was before. -/
theorem quotedBody_escaped (value : List Char) : QuotedBody '"' (value.flatMap escaped) value := by
  induction value with
  | nil => exact .nil
  | cons c value ih =>
      by_cases hSpecial : c = '"' ∨ c = '\\'
      · have hSame : unescape c = c := by rcases hSpecial with rfl | rfl <;> rfl
        simpa [escaped, hSpecial, hSame] using ih.escape c
      · obtain ⟨hQuote, hPlain⟩ := not_or.mp hSpecial
        simpa [escaped, hSpecial] using ih.plain hQuote hPlain

/-- Between double quotes, the quote and the backslash are escaped, and all other characters are
written as they are. -/
theorem spells_string (afterDot : Bool) (value : String) :
    Spells afterDot (Literal.string value).chars (.string value) := by
  have hScan := (quotedBody_escaped value.toList).scanString_closed (by decide) []
  have hSpells := spells_scanString afterDot (.inl rfl) (value.toList.flatMap escaped ++ ['"'])
  simpa [hScan, Literal.chars] using hSpells

end Quotes

/-- Every literal but a floating-point number is scanned as a token that stands for it. -/
theorem Literal.exists_spells {value : Literal} (hNoFloat : ∀ number, value ≠ .float number) :
    ∃ token, Spells false value.chars token ∧ Grammar.literal? token = some value := by
  cases value with
  | string value => exact ⟨_, spells_string false value, rfl⟩
  | number value => exact ⟨_, spells_decimal false value, rfl⟩
  | float value => exact absurd rfl (hNoFloat value)
  | boolean value =>
      cases value <;>
        exact ⟨_, spells_wordStart false (by decide) (List.all_eq_true.mp (by decide)), rfl⟩
  | null =>
      exact ⟨_, spells_wordStart false (by decide) (List.all_eq_true.mp (by decide)), rfl⟩

/-- A character that starts no mark is none by itself. -/
theorem Mark.ofText?_singleton {c : Char} {text : List Char}
    (hNone : Mark.ofText? (c :: text) = none) : Mark.ofText? [c] = none := by
  apply List.find?_eq_none.mpr
  intro mark hMark hStarts
  refine List.find?_eq_none.mp hNone mark hMark ?_
  have hAlone := List.isPrefixOf_iff_prefix.mp hStarts
  exact List.isPrefixOf_iff_prefix.mpr (hAlone.trans ⟨text, rfl⟩)

/-- What a token was read from spells it. -/
theorem spells_scanToken (afterDot : Bool) {c : Char} (hBlank : isBlank c = false)
    (text : List Char) :
    Spells afterDot (scanToken afterDot c text).source (scanToken afterDot c text).token := by
  have hChars : ∀ d ∈ (c :: text).takeWhile isWordChar, isWordChar d = true :=
    List.all_eq_true.mp List.all_takeWhile
  have hCase := scanToken_cases afterDot c text
  generalize scanToken afterDot c text = scan at hCase ⊢
  cases hCase with
  | mark => exact spells_mark afterDot _
  | quoted hQuote => exact spells_scanString afterDot hQuote text
  | parameter => exact spells_scanParameter afterDot text
  | negative _ hDigit => exact spells_scanNumber afterDot true hDigit
  | number hDigit => exact spells_scanNumber afterDot false hDigit
  | digits hDigit hRuns =>
      have hWithin := digitsRunIntoWord_takeWhile hRuns
      have hWord := List.takeWhile_cons_of_pos (l := text) (isWordChar_of_isDigit hDigit)
      rw [hWord] at hChars hWithin
      simp only [scanWord, hWord]
      exact spells_digits afterDot hDigit hWithin hChars
  | word hStart =>
      have hWord := List.takeWhile_cons_of_pos (l := text) (isWordChar_of_isWordStart hStart)
      rw [hWord] at hChars
      simp only [scanWord, hWord]
      exact spells_wordStart afterDot hStart hChars
  | symbol hMark hQuote hSign hDigit hStart =>
      refine ⟨c, [], rfl, hBlank, ?_⟩
      simp [scanToken, Mark.ofText?_singleton hMark, scanLiteral, hQuote, hSign, hDigit, hStart]

end QueryOutline
