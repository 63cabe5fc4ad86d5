import QueryOutline.Proofs.Lexeme.Spelling

/-! The lexemes of texts that are put together. Blanks are stepped over, a word that spells a token
gives this token, and a text with something behind it that stands apart has its own lexemes and then
those of what is behind it. -/

namespace QueryOutline

open Text

def Lexeme.shift (bytes : Nat) (lexeme : Lexeme) : Lexeme :=
  ⟨lexeme.token, lexeme.start + bytes, lexeme.stop + bytes⟩

def QuotesClosed (lexemes : List Lexeme) : Prop :=
  ∀ lexeme ∈ lexemes, lexeme.token.isOpenString = false

instance (lexemes : List Lexeme) : Decidable (QuotesClosed lexemes) :=
  inferInstanceAs (Decidable (∀ lexeme ∈ lexemes, _))

theorem QuotesClosed.shift {lexemes : List Lexeme} (hClosed : QuotesClosed lexemes) (bytes : Nat) :
    QuotesClosed (lexemes.map (Lexeme.shift bytes)) := by
  intro lexeme hMember
  obtain ⟨original, hOriginal, rfl⟩ := List.mem_map.mp hMember
  exact hClosed original hOriginal

/-- Whether a dot is the last of the lexemes, or was before them if there are none. -/
def endsInDot (afterDot : Bool) (lexemes : List Lexeme) : Bool :=
  (lexemes.getLast?.map (·.token == .mark .dot)).getD afterDot

theorem endsInDot_cons (afterDot : Bool) (lexeme : Lexeme) (lexemes : List Lexeme) :
    endsInDot afterDot (lexeme :: lexemes) = endsInDot (lexeme.token == .mark .dot) lexemes := by
  rw [endsInDot, List.getLast?_cons, endsInDot]
  cases lexemes.getLast? <;> rfl

section OpenQuotes

theorem Token.isOpenString_of_ignoresCase {token : Token} (hCase : token.ignoresCase = true) :
    token.isOpenString = false := by
  cases token with
  | openString => cases hCase
  | _ => rfl

theorem wordToken_isOpenString (afterDot : Bool) (word : List Char) :
    (wordToken afterDot word).isOpenString = false := by
  cases afterDot with
  | true => rfl
  | false =>
      simp only [wordToken, Bool.false_eq_true, if_false]
      cases hReserved : reserved? word with
      | none => rfl
      | some token => exact Token.isOpenString_of_ignoresCase (reserved?_ignoresCase hReserved)

theorem numberToken_isOpenString (negative : Bool) (whole fraction : List Char) :
    (numberToken negative whole fraction).isOpenString = false := by
  rcases numberToken_cases negative whole fraction with ⟨value, hToken⟩ | ⟨value, hToken⟩ <;>
    rw [hToken] <;> rfl

/-- A quoted text that is not closed takes all that is left. -/
theorem scanQuoted_rest_of_open (quote : Char) (text : List Char)
    (hOpen : (scanQuoted quote text).closed = false) : (scanQuoted quote text).rest = [] := by
  obtain ⟨body, -, ⟨hClosed, -⟩ | ⟨-, hRest, -⟩⟩ := exists_quotedBody quote text
  · rw [hOpen] at hClosed
    cases hClosed
  · exact hRest

/-- Only a quote starts an open string. -/
theorem quote_of_openString {afterDot : Bool} {c : Char} {text : List Char}
    (hOpen : (scanToken afterDot c text).token.isOpenString = true) : c = '"' ∨ c = '\'' := by
  have hCase := scanToken_cases afterDot c text
  generalize scanToken afterDot c text = scan at hCase hOpen
  cases hCase with
  | quoted hQuote => exact hQuote
  | mark | symbol => cases hOpen
  | parameter =>
      rcases scanParameter_cases text with hToken | ⟨name, hToken, -⟩ <;>
        simp [hToken, Token.isOpenString] at hOpen
  | negative | number => simp [scanNumber, numberToken_isOpenString] at hOpen
  | digits | word => simp [scanWord, wordToken_isOpenString] at hOpen

/-- Whether the quote has its partner is all that tells the two tokens of a string apart. -/
theorem scanString_isOpenString (quote : Char) (text : List Char) :
    (scanString quote text).token.isOpenString = !(scanQuoted quote text).closed := by
  cases hClosed : (scanQuoted quote text).closed <;>
    simp [scanString, hClosed, Token.isOpenString]

/-- A quote without its partner takes all that is behind it. -/
theorem scanToken_rest_of_openString {afterDot : Bool} {c : Char} {text : List Char}
    (hOpen : (scanToken afterDot c text).token.isOpenString = true) :
    (scanToken afterDot c text).rest = [] := by
  have hQuote := quote_of_openString hOpen
  rw [scanToken_quote hQuote] at hOpen ⊢
  apply scanQuoted_rest_of_open
  simpa [scanString_isOpenString] using hOpen

end OpenQuotes

namespace Scanner

variable {afterDot : Bool}

/-- Blanks give no lexemes and move the offset only. -/
theorem lexemes_blanks {blanks : List Char} (hBlanks : isBlankText blanks = true)
    (more : List Char) (offset : Nat) (afterDot : Bool) :
    (Scanner.mk (blanks ++ more) offset afterDot).lexemes =
      (Scanner.mk more (offset + byteSize blanks) afterDot).lexemes := by
  induction blanks generalizing offset with
  | nil => rfl
  | cons c blanks ih =>
      obtain ⟨hFirst, hRest⟩ := Bool.and_eq_true_iff.mp hBlanks
      rw [List.cons_append, lexemes_blank hFirst, ih hRest, byteSize, Nat.add_assoc]

/-- A word that spells a token is its lexeme, if it stands apart or nothing is behind it. -/
theorem lexemes_word {word more : List Char} {token : Token} (hSpells : Spells afterDot word token)
    (hMore : more = [] ∨ (StartsApart more ∧ token.isOpenString = false)) (offset : Nat) :
    (Scanner.mk (word ++ more) offset afterDot).lexemes =
      ⟨token, offset, offset + byteSize word⟩ ::
        (Scanner.mk more (offset + byteSize word) (token == .mark .dot)).lexemes := by
  rcases hMore with rfl | ⟨hMore, hClosed⟩
  · obtain ⟨c, rest, rfl, hSolid, hScan⟩ := hSpells
    rw [List.append_nil, lexemes_solid hSolid, hScan]
  · obtain ⟨c, rest, rfl, hSolid, hScan⟩ := hSpells.exists_scanToken hClosed
    rw [List.cons_append, lexemes_solid hSolid, hScan more hMore]

/-- A parenthesis is a lexeme whatever is behind it. -/
theorem lexemes_openParen (text : List Char) (offset : Nat) (afterDot : Bool) :
    (Scanner.mk ('(' :: text) offset afterDot).lexemes =
      ⟨.mark .openParen, offset, offset + 1⟩ :: (Scanner.mk text (offset + 1) false).lexemes := by
  rw [lexemes_solid (by decide)]
  rfl

theorem lexemes_closeParen (text : List Char) (offset : Nat) (afterDot : Bool) :
    (Scanner.mk (')' :: text) offset afterDot).lexemes =
      ⟨.mark .closeParen, offset, offset + 1⟩ :: (Scanner.mk text (offset + 1) false).lexemes := by
  rw [lexemes_solid (by decide)]
  rfl

/-- The bytes in front of a text move its lexemes and do nothing else. -/
theorem lexemes_shift (bytes : Nat) (text : List Char) (offset : Nat) (afterDot : Bool) :
    (Scanner.mk text (offset + bytes) afterDot).lexemes =
      (Scanner.mk text offset afterDot).lexemes.map (Lexeme.shift bytes) := by
  induction text, offset, afterDot using Scanner.induction with
  | hEnd => rfl
  | hBlank c text offset afterDot hBlank ih =>
      rw [lexemes_blank hBlank, lexemes_blank hBlank, ← ih, Nat.add_right_comm]
  | hSolid c text offset afterDot hSolid ih =>
      rw [lexemes_solid hSolid, lexemes_solid hSolid]
      simp only [List.map_cons, Lexeme.shift, Nat.add_right_comm _ bytes, ih]

/-- A text with something behind it that stands apart has its own lexemes, and then those of what is
behind it. -/
theorem lexemes_append {back : List Char} (hBack : StartsApart back) (front : List Char)
    (offset : Nat) (afterDot : Bool)
    (hClosed : QuotesClosed (Scanner.mk front offset afterDot).lexemes) :
    (Scanner.mk (front ++ back) offset afterDot).lexemes =
      (Scanner.mk front offset afterDot).lexemes ++
        (Scanner.mk back (offset + byteSize front)
          (endsInDot afterDot (Scanner.mk front offset afterDot).lexemes)).lexemes := by
  induction front, offset, afterDot using Scanner.induction with
  | hEnd => rfl
  | hBlank c text offset afterDot hBlank ih =>
      rw [lexemes_blank hBlank] at hClosed ⊢
      rw [List.cons_append, lexemes_blank hBlank, ih hClosed, byteSize, Nat.add_assoc]
  | hSolid c text offset afterDot hSolid ih =>
      rw [lexemes_solid hSolid] at hClosed ⊢
      obtain ⟨hFirst, hRest⟩ := List.forall_mem_cons.mp hClosed
      have hText := congrArg byteSize (scanToken_append afterDot c text)
      rw [byteSize_append] at hText
      rw [List.cons_append, lexemes_solid hSolid, scanToken_append_apart hBack hFirst]
      simp only [List.cons_append, endsInDot_cons, ← hText, ← Nat.add_assoc, ih hRest]

/-- A quote without its partner is the last lexeme and goes on up to the end of the text. -/
theorem openString_last {text : List Char} {offset : Nat} {front rest : List Lexeme}
    {lexeme : Lexeme} (hOpen : lexeme.token.isOpenString = true)
    (hLexemes : (Scanner.mk text offset afterDot).lexemes = front ++ lexeme :: rest) :
    rest = [] ∧ lexeme.stop = offset + byteSize text := by
  induction text, offset, afterDot using Scanner.induction generalizing front with
  | hEnd => simp at hLexemes
  | hBlank c text offset afterDot hBlank ih =>
      rw [lexemes_blank hBlank] at hLexemes
      rw [byteSize, ← Nat.add_assoc]
      exact ih hLexemes
  | hSolid c text offset afterDot hSolid ih =>
      rw [lexemes_solid hSolid] at hLexemes
      have hText := congrArg byteSize (scanToken_append afterDot c text)
      rw [byteSize_append] at hText
      rw [← hText, ← Nat.add_assoc]
      cases front with
      | nil =>
          obtain ⟨rfl, rfl⟩ := List.cons.inj hLexemes
          have hRest := scanToken_rest_of_openString hOpen
          simp [hRest, byteSize]
      | cons first front => exact ih (List.cons.inj hLexemes).2

end Scanner

/-- The lexemes of a text that starts at an offset are those of the text alone, moved to it. -/
theorem lexemes_at (text : String) (offset : Nat) :
    (Scanner.mk text.toList offset false).lexemes =
      (lexemes text).map (Lexeme.shift offset) := by
  have hShift := Scanner.lexemes_shift offset text.toList 0 false
  rwa [Nat.zero_add] at hShift

end QueryOutline
