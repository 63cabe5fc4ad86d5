import QueryOutline.Proofs.Lexeme.Joining

/-! The layout of a text. What the lexemes of a text were read from can be written anew, with any
blanks between the words and with the reserved words in any case, and is scanned as the same tokens,
each where its word now stands. -/

namespace QueryOutline

open Text

namespace Text

def dropBytes : Nat → List Char → List Char
  | _, [] => []
  | count, c :: text => if count = 0 then c :: text else dropBytes (count - c.utf8Size) text

def takeBytes : Nat → List Char → List Char
  | _, [] => []
  | count, c :: text => if count = 0 then [] else c :: takeBytes (count - c.utf8Size) text

theorem byteSize_cons_ne_zero (c : Char) (text : List Char) : byteSize (c :: text) ≠ 0 := by
  have hPositive := c.utf8Size_pos
  simp only [byteSize]
  omega

/-- Going by bytes, a text is cut where the sizes of its parts say. -/
theorem dropBytes_append (first second : List Char) :
    dropBytes (byteSize first) (first ++ second) = second := by
  induction first with
  | nil => cases second <;> rfl
  | cons c first ih =>
      rw [List.cons_append, dropBytes, if_neg (byteSize_cons_ne_zero c first), byteSize,
        Nat.add_sub_cancel_left, ih]

theorem takeBytes_append (first second : List Char) :
    takeBytes (byteSize first) (first ++ second) = first := by
  induction first with
  | nil => cases second <;> rfl
  | cons c first ih =>
      rw [List.cons_append, takeBytes, if_neg (byteSize_cons_ne_zero c first), byteSize,
        Nat.add_sub_cancel_left, ih]

end Text

/-- The characters of the text that the lexeme was read from. -/
def Lexeme.source (text : String) (lexeme : Lexeme) : List Char :=
  takeBytes (lexeme.stop - lexeme.start) (dropBytes lexeme.start text.toList)

section Case

variable {word other : List Char}

/-- The scanner asks for reserved words in upper case. -/
theorem reserved?_eq_of_asciiUpper_eq (hCase : asciiUpper word = asciiUpper other) :
    reserved? word = reserved? other := by
  simp only [reserved?, Keyword.ofWord?, hCase]

/-- A character whose upper case is a capital of ASCII starts a word. -/
theorem isWordStart_of_isUpper_toUpper {c : Char} (hUpper : c.toUpper.isUpper = true) :
    isWordStart c = true := by
  have hAscii : isAscii c = true := by
    have hCode : c.val.toNat < 128 := by
      unfold Char.toUpper at hUpper
      split at hUpper
      · rename_i hLower
        exact Nat.lt_of_le_of_lt (UInt32.le_iff_toNat_le.mp hLower.2) (by decide)
      · have hRange := of_decide_eq_true hUpper
        exact Nat.lt_of_le_of_lt (UInt32.le_iff_toNat_le.mp hRange.2) (by decide)
    simpa [isAscii] using hCode
  exact forall_ascii (P := fun c => c.toUpper.isUpper = true → isWordStart c = true)
    (by decide +kernel) hAscii hUpper

/-- There is no digit in a reserved word. -/
theorem IsReserved.isWordStart (hReserved : IsReserved word) :
    ∀ c ∈ word, isWordStart c = true := by
  have hCapitals : ∀ reserved ∈ reservedWords, reserved.all Char.isUpper = true := by decide
  intro c hMember
  exact isWordStart_of_isUpper_toUpper
    (List.all_eq_true.mp (hCapitals _ hReserved) c.toUpper (List.mem_map_of_mem hMember))

/-- A reserved word spells its token in any case. -/
theorem spells_reserved {token : Token} (hToken : reserved? word = some token) :
    Spells false word token := by
  have hReserved : IsReserved word := by
    by_contra hFree
    rw [reserved?_eq_none_iff.mpr hFree] at hToken
    cases hToken
  have hStart := hReserved.isWordStart
  have hWord : wordToken false word = token := by simp [wordToken, hToken]
  rw [← hWord]
  cases word with
  | nil => exact absurd hReserved (by decide)
  | cons c rest =>
      exact spells_wordStart false (hStart c (List.mem_cons_self ..))
        fun d hMember => isWordChar_of_isWordStart (hStart d hMember)

theorem numberToken_ignoresCase (negative : Bool) (whole fraction : List Char) :
    (numberToken negative whole fraction).ignoresCase = false := by
  rcases numberToken_cases negative whole fraction with ⟨value, hToken⟩ | ⟨value, hToken⟩ <;>
    rw [hToken] <;> rfl

/-- Behind a dot no word is reserved, so that its case is kept. -/
theorem wordToken_ignoresCase {afterDot : Bool}
    (hCase : (wordToken afterDot word).ignoresCase = true) :
    afterDot = false ∧ reserved? word = some (wordToken afterDot word) := by
  cases afterDot with
  | true => cases hCase
  | false =>
      simp only [wordToken, Bool.false_eq_true, if_false] at hCase ⊢
      cases hReserved : reserved? word with
      | none => simp [hReserved, Token.ignoresCase] at hCase
      | some token => exact ⟨trivial, rfl⟩

/-- A token that ignores case was read from a reserved word that is not behind a dot. -/
theorem scanToken_ignoresCase {afterDot : Bool} {c : Char} {text : List Char}
    (hCase : (scanToken afterDot c text).token.ignoresCase = true) :
    afterDot = false ∧
      reserved? (scanToken afterDot c text).source = some (scanToken afterDot c text).token := by
  have hKind := scanToken_cases afterDot c text
  generalize scanToken afterDot c text = scan at hKind hCase ⊢
  cases hKind with
  | mark | symbol | digits => cases hCase
  | quoted =>
      unfold scanString at hCase
      simp only at hCase
      split at hCase <;> cases hCase
  | parameter =>
      rcases scanParameter_cases text with hToken | ⟨name, hToken, -⟩ <;>
        simp [hToken, Token.ignoresCase] at hCase
  | negative | number => simp [scanNumber, numberToken_ignoresCase] at hCase
  | word => exact wordToken_ignoresCase hCase

end Case

structure Spaced where
  word : List Char
  gap : List Char

def spacedText (words : List Spaced) : List Char :=
  words.flatMap fun spaced => spaced.word ++ spaced.gap

/-- The text of words behind leading blanks. -/
def laidOut (lead : List Char) (words : List Spaced) : String :=
  String.ofList (lead ++ spacedText words)

/-- The word may be written for a lexeme of the text: it is what the lexeme was read from, or
differs from it in the case of ASCII letters if the token ignores case. -/
def Lexeme.WrittenAs (text : String) (lexeme : Lexeme) (word : List Char) : Prop :=
  word = lexeme.source text ∨
    (lexeme.token.ignoresCase = true ∧ asciiUpper word = asciiUpper (lexeme.source text))

/-- Lexemes of a text are written anew as words: with blanks between any two of them, and with
blanks or nothing behind the last, but with nothing behind a quote without its partner. -/
inductive Relaid (text : String) : List Lexeme → List Spaced → Prop where
  | nil : Relaid text [] []
  | cons {lexeme : Lexeme} {lexemes : List Lexeme} {spaced : Spaced} {words : List Spaced}
      (hWord : lexeme.WrittenAs text spaced.word) (hBlank : isBlankText spaced.gap = true)
      (hBetween : lexemes ≠ [] → spaced.gap ≠ [])
      (hOpen : lexeme.token.isOpenString = true → spaced.gap = [])
      (hRest : Relaid text lexemes words) : Relaid text (lexeme :: lexemes) (spaced :: words)

instance (text : String) (lexeme : Lexeme) (word : List Char) :
    Decidable (lexeme.WrittenAs text word) :=
  inferInstanceAs (Decidable (_ ∨ _))

/-- One word at a time: it is written for its lexeme, and the blanks behind it keep it apart from
the next word. A quote without its partner would take them, so that there are none behind it. -/
theorem relaid_cons_iff {text : String} {lexeme : Lexeme} {lexemes : List Lexeme} {spaced : Spaced}
    {words : List Spaced} :
    Relaid text (lexeme :: lexemes) (spaced :: words) ↔
      lexeme.WrittenAs text spaced.word ∧ isBlankText spaced.gap = true ∧
        (lexemes ≠ [] → spaced.gap ≠ []) ∧
        (lexeme.token.isOpenString = true → spaced.gap = []) ∧ Relaid text lexemes words := by
  constructor
  · rintro (_ | ⟨hWord, hBlank, hBetween, hOpen, hRest⟩)
    exact ⟨hWord, hBlank, hBetween, hOpen, hRest⟩
  · rintro ⟨hWord, hBlank, hBetween, hOpen, hRest⟩
    exact .cons hWord hBlank hBetween hOpen hRest

instance Relaid.decidable (text : String) :
    (lexemes : List Lexeme) → (words : List Spaced) → Decidable (Relaid text lexemes words)
  | [], [] => isTrue .nil
  | [], _ :: _ => isFalse nofun
  | _ :: _, [] => isFalse nofun
  | _ :: lexemes, _ :: words =>
      have := Relaid.decidable text lexemes words
      decidable_of_iff' _ relaid_cons_iff

/-- The tokens of the lexemes, each where its word stands if the first of the words is at the
offset. -/
def relocated : (offset : Nat) → List Lexeme → List Spaced → List Lexeme
  | offset, lexeme :: lexemes, spaced :: words =>
      ⟨lexeme.token, offset, offset + byteSize spaced.word⟩ ::
        relocated (offset + byteSize spaced.word + byteSize spaced.gap) lexemes words
  | _, _, _ => []

/-- What a lexeme was read from is found in the text again. -/
theorem Lexeme.source_eq {text : String} {before word behind : List Char}
    (hText : text.toList = before ++ (word ++ behind)) (token : Token) :
    Lexeme.source text ⟨token, byteSize before, byteSize before + byteSize word⟩ = word := by
  rw [Lexeme.source, hText, Nat.add_sub_cancel_left, dropBytes_append, takeBytes_append]

/-- A word that is written for a lexeme spells its token: it is the source itself, or the same
reserved word in another case. -/
theorem Lexeme.WrittenAs.spells {text : String} {start stop : Nat} {afterDot : Bool} {c : Char}
    {behind word : List Char} (hSolid : isBlank c = false)
    (hSource : Lexeme.source text ⟨(scanToken afterDot c behind).token, start, stop⟩ =
      (scanToken afterDot c behind).source)
    (hWord : Lexeme.WrittenAs text ⟨(scanToken afterDot c behind).token, start, stop⟩ word) :
    Spells afterDot word (scanToken afterDot c behind).token := by
  unfold Lexeme.WrittenAs at hWord
  rw [hSource] at hWord
  rcases hWord with rfl | ⟨hCase, hUpper⟩
  · exact spells_scanToken afterDot hSolid behind
  · obtain ⟨rfl, hReserved⟩ := scanToken_ignoresCase hCase
    exact spells_reserved ((reserved?_eq_of_asciiUpper_eq hUpper).trans hReserved)

/-- Behind a word there is nothing, or what stands apart from it. Where the word is a quote without
its partner, no lexeme is behind it and there is nothing. -/
theorem Relaid.behind_word {text : String} {token : Token} {lexemes : List Lexeme} {spaced : Spaced}
    {words : List Spaced} (hLast : token.isOpenString = true → lexemes = [])
    (hBlank : isBlankText spaced.gap = true) (hBetween : lexemes ≠ [] → spaced.gap ≠ [])
    (hOpen : token.isOpenString = true → spaced.gap = []) (hRest : Relaid text lexemes words) :
    spaced.gap ++ spacedText words = [] ∨
      (StartsApart (spaced.gap ++ spacedText words) ∧ token.isOpenString = false) := by
  cases hQuote : token.isOpenString with
  | true =>
      obtain rfl := hLast hQuote
      cases hRest with
      | nil => exact .inl (by rw [hOpen hQuote]; rfl)
  | false =>
      refine .inr ⟨startsApart_of_blanks hBlank fun hNone => ?_, rfl⟩
      cases hRest with
      | nil => exact startsApart_nil
      | cons => exact absurd hNone (hBetween (List.cons_ne_nil _ _))

theorem spacedText_cons (spaced : Spaced) (words : List Spaced) :
    spacedText (spaced :: words) = spaced.word ++ (spaced.gap ++ spacedText words) := by
  simp [spacedText]

/-- What is left to be scanned of a text, written anew, is scanned as the same tokens. -/
theorem Scanner.lexemes_relaid {text : String} (rest : List Char) (offset : Nat) (afterDot : Bool)
    {before : List Char} (hText : text.toList = before ++ rest) (hOffset : offset = byteSize before)
    {words : List Spaced} (hWords : Relaid text (Scanner.mk rest offset afterDot).lexemes words)
    (newOffset : Nat) :
    (Scanner.mk (spacedText words) newOffset afterDot).lexemes =
      relocated newOffset (Scanner.mk rest offset afterDot).lexemes words := by
  induction rest, offset, afterDot using Scanner.induction generalizing before words newOffset with
  | hEnd =>
      cases hWords with
      | nil => rfl
  | hBlank c rest offset afterDot hBlank ih =>
      rw [lexemes_blank hBlank] at hWords ⊢
      refine @ih (before ++ [c]) ?_ ?_ words hWords newOffset
      · simp [hText]
      · simp [hOffset, byteSize]
  | hSolid c rest offset afterDot hSolid ih =>
      rw [lexemes_solid hSolid] at hWords ⊢
      cases hWords with
      | @cons _ _ spaced words hWord hBlank hBetween hOpen hRest =>
          subst hOffset
          have hScan := scanToken_append afterDot c rest
          rw [← hScan] at hText
          have hSpells := hWord.spells hSolid (Lexeme.source_eq hText _)
          have hBehind := hRest.behind_word
            (fun hQuote => by rw [scanToken_rest_of_openString hQuote, lexemes_nil]) hBlank
            hBetween hOpen
          rw [spacedText_cons, lexemes_word hSpells hBehind, lexemes_blanks hBlank, relocated]
          congr 1
          refine @ih (before ++ (scanToken afterDot c rest).source) ?_ ?_ words hRest _
          · rw [hText, List.append_assoc]
          · rw [byteSize_append]

/-- A text whose lexemes are written anew as words, behind blanks, has the same tokens, each where
its word stands. -/
theorem lexemes_relaid {text : String} {lead : List Char} (hLead : isBlankText lead = true)
    {words : List Spaced} (hWords : Relaid text (lexemes text) words) :
    lexemes (laidOut lead words) = relocated (byteSize lead) (lexemes text) words := by
  rw [lexemes, Scanner.ofText, laidOut, String.toList_ofList, Scanner.lexemes_blanks hLead,
    Nat.zero_add]
  exact @Scanner.lexemes_relaid text text.toList 0 false [] rfl rfl words hWords (byteSize lead)

end QueryOutline
