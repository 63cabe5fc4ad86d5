import QueryOutline.Lexeme.Source
import QueryOutline.Proofs.Grammar.Streams
import QueryOutline.Proofs.Text.Classes

/-! The names among the lexemes of a text. A name is no reserved word unless it stands behind a dot,
and a parameter keeps its at signs. -/

namespace QueryOutline

open Text

def reservedWords : List (List Char) :=
  ["TRUE".toList, "FALSE".toList, "NULL".toList] ++
    Keyword.all.map fun keyword => keyword.spelling.toList

/-- The word has a meaning of its own, in whatever case its ASCII letters are. -/
def IsReserved (word : List Char) : Prop :=
  asciiUpper word ∈ reservedWords

instance (word : List Char) : Decidable (IsReserved word) :=
  inferInstanceAs (Decidable (_ ∈ _))

/-- A word of a query: letters, numbers and underscores that start with a letter or an underscore,
or with ASCII digits that go on as something else. -/
structure IsWord (word : List Char) : Prop where
  chars : ∀ c ∈ word, isWordChar c = true
  start : (∃ c rest, word = c :: rest ∧ isWordStart c = true) ∨
    ∃ digit digits c rest, word = digit :: (digits ++ c :: rest) ∧
      (∀ d ∈ digit :: digits, d.isDigit = true) ∧ c.isDigit = false

def IsName (word : List Char) : Prop :=
  IsWord word ∧ ¬IsReserved word

/-- One or two at signs with letters, numbers and underscores behind them. -/
def IsParameter (text : List Char) : Prop :=
  ∃ signs word, text = signs ++ word ∧ (signs = ['@'] ∨ signs = ['@', '@']) ∧ word ≠ [] ∧
    ∀ c ∈ word, isWordChar c = true

/-- The reserved words are the truth values, the null value and the keywords, and no others. -/
theorem reserved?_eq_none_iff {word : List Char} : reserved? word = none ↔ ¬IsReserved word := by
  have hKeyword : Keyword.ofWord? word = none ↔
      asciiUpper word ∉ Keyword.all.map fun keyword => keyword.spelling.toList := by
    simp [Keyword.ofWord?, List.find?_eq_none]
  simp only [IsReserved, reservedWords, List.mem_append, List.mem_cons, List.not_mem_nil, or_false,
    not_or, ← hKeyword, reserved?, beq_iff_eq]
  split
  · rename_i hTrue
    simp [hTrue]
  split
  · rename_i hFalse
    simp [hFalse]
  split
  · rename_i hNull
    simp [hNull]
  · rename_i hTrue hFalse hNull
    rw [Option.map_eq_none_iff]
    exact ⟨fun hNone => ⟨⟨hTrue, hFalse, hNull⟩, hNone⟩, fun hAll => hAll.2⟩

/-- No reserved word starts with a digit. -/
theorem not_isReserved_of_isDigit {c : Char} {word : List Char} (hDigit : c.isDigit = true) :
    ¬IsReserved (c :: word) := by
  have hStarts : ∀ reserved ∈ reservedWords, reserved.head?.any Char.isDigit = false := by decide
  intro hReserved
  have hStart := hStarts _ hReserved
  simp [asciiUpper, toUpper_of_isDigit hDigit, hDigit] at hStart

/-- A name that is not behind a dot is no reserved word, and a parameter has its at signs. -/
def Token.WellNamed (afterDot : Bool) : Token → Prop
  | .identifier name => afterDot = false → ¬IsReserved name.toList
  | .parameter name => IsParameter name.toList
  | _ => True

/-- Whether the token is a word with a meaning of its own, which has it in any case of its ASCII
letters. -/
def Token.ignoresCase : Token → Bool
  | .keyword _ | .boolean _ | .null => true
  | _ => false

/-- A reserved word stands for a truth value, the null value or a keyword. -/
theorem reserved?_ignoresCase {word : List Char} {token : Token}
    (hToken : reserved? word = some token) : token.ignoresCase = true := by
  unfold reserved? at hToken
  simp only at hToken
  split at hToken
  · cases hToken
    rfl
  split at hToken
  · cases hToken
    rfl
  split at hToken
  · cases hToken
    rfl
  · obtain ⟨keyword, -, rfl⟩ := Option.map_eq_some_iff.mp hToken
    rfl

/-- Only names and parameters have something asked of them, and the case of their letters
matters. -/
theorem Token.wellNamed_of_ignoresCase {token : Token} (hCase : token.ignoresCase = true)
    (afterDot : Bool) : token.WellNamed afterDot := by
  cases token with
  | keyword _ | boolean _ | null => trivial
  | _ => cases hCase

/-- A word that stands for a name is none of the reserved words, unless it is read behind a dot. -/
theorem wordToken_wellNamed (afterDot : Bool) (word : List Char) :
    (wordToken afterDot word).WellNamed afterDot := by
  cases afterDot with
  | true => exact fun hFree => absurd hFree (by simp)
  | false =>
      simp only [wordToken, Bool.false_eq_true, if_false]
      cases hReserved : reserved? word with
      | none =>
          intro _
          rw [String.toList_ofList]
          exact reserved?_eq_none_iff.mp hReserved
      | some token => exact Token.wellNamed_of_ignoresCase (reserved?_ignoresCase hReserved) false

/-- A number is a decimal or, if its whole part is too great, a float. It is never a name. -/
theorem numberToken_cases (negative : Bool) (whole fraction : List Char) :
    (∃ value, numberToken negative whole fraction = .number value) ∨
      ∃ value, numberToken negative whole fraction = .float value := by
  unfold numberToken
  simp only
  split
  · exact .inl ⟨_, rfl⟩
  · exact .inr ⟨_, rfl⟩

theorem numberToken_wellNamed (afterDot negative : Bool) (whole fraction : List Char) :
    (numberToken negative whole fraction).WellNamed afterDot := by
  rcases numberToken_cases negative whole fraction with ⟨value, hToken⟩ | ⟨value, hToken⟩ <;>
    simp [hToken, Token.WellNamed]

theorem sigil_cases (text : List Char) : sigil text = ['@'] ∨ sigil text = ['@', '@'] := by
  unfold sigil
  split
  · exact .inr rfl
  · exact .inl rfl

/-- A parameter has a word behind its signs, and a sign without one is a symbol. -/
theorem scanParameter_cases (text : List Char) :
    (scanParameter text).token = .symbol '@' ∨
      ∃ name, (scanParameter text).token = .parameter name ∧ IsParameter name.toList := by
  unfold scanParameter
  simp only
  split
  · exact .inl rfl
  · rename_i hWord
    exact .inr ⟨_, rfl, _, _, String.toList_ofList, sigil_cases text, by simpa using hWord,
      List.all_eq_true.mp List.all_takeWhile⟩

/-- This is the one place where the kinds of tokens are gone through. -/
theorem scanToken_wellNamed (afterDot : Bool) (c : Char) (text : List Char) :
    (scanToken afterDot c text).token.WellNamed afterDot := by
  have hCase := scanToken_cases afterDot c text
  generalize scanToken afterDot c text = scan at hCase ⊢
  cases hCase with
  | mark | symbol => trivial
  | quoted =>
      unfold scanString
      simp only
      split <;> trivial
  | parameter =>
      rcases scanParameter_cases text with hToken | ⟨name, hToken, hName⟩
      · simp [hToken, Token.WellNamed]
      · simpa [hToken, Token.WellNamed] using hName
  | negative | number => exact numberToken_wellNamed afterDot _ _ _
  | digits hDigit =>
      -- The word is read as if behind a dot, but no reserved word starts with a digit.
      intro _
      simpa [isWordChar_of_isDigit hDigit] using not_isReserved_of_isDigit hDigit
  | word => exact wordToken_wellNamed afterDot _

/-- All tokens of the lexemes are well named. `afterDot` says whether a dot stands before the first
of them. -/
def WellNamed : (afterDot : Bool) → List Lexeme → Prop
  | _, [] => True
  | afterDot, lexeme :: rest =>
      lexeme.token.WellNamed afterDot ∧ WellNamed (lexeme.token == .mark .dot) rest

/-- Each lexeme is scanned with the knowledge of whether the token in front of it is a dot, which is
what its name depends on. -/
theorem Scanner.wellNamed_lexemes (text : List Char) (offset : Nat) (afterDot : Bool) :
    WellNamed afterDot (Scanner.mk text offset afterDot).lexemes := by
  induction text, offset, afterDot using Scanner.induction with
  | hEnd => trivial
  | hBlank c text offset afterDot hBlank ih =>
      rw [lexemes_blank hBlank]
      exact ih
  | hSolid c text offset afterDot hSolid ih =>
      rw [lexemes_solid hSolid]
      exact ⟨scanToken_wellNamed afterDot c text, ih⟩

theorem wellNamed_lexemes (text : String) : WellNamed false (lexemes text) :=
  Scanner.wellNamed_lexemes text.toList 0 false

namespace WellNamed

theorem tail {afterDot : Bool} {lexeme : Lexeme} {rest : List Lexeme}
    (hToken : lexeme.token ≠ .mark .dot) (hNames : WellNamed afterDot (lexeme :: rest)) :
    WellNamed false rest := by
  have hNoDot : (lexeme.token == .mark .dot) = false := by simpa using hToken
  exact hNoDot ▸ hNames.2

/-- The names at the start are well named by what is in front of them, not by what follows. -/
theorem of_append {afterDot : Bool} {first second : List Lexeme}
    (hNames : WellNamed afterDot (first ++ second)) : WellNamed afterDot first := by
  induction first generalizing afterDot with
  | nil => trivial
  | cons lexeme first ih => exact ⟨hNames.1, ih hNames.2⟩

/-- A closing parenthesis is no dot, so that nothing behind a group is read as a property. -/
theorem behind_group {afterDot : Bool} {nesting : Nat} {lexemes : List Lexeme}
    (hNames : WellNamed afterDot lexemes) :
    WellNamed false (Reading.splitGroup nesting lexemes).rest := by
  fun_induction Reading.splitGroup nesting lexemes generalizing afterDot with
  | case1 => trivial
  | case3 lexeme rest hToken => exact hNames.tail (by simp [hToken])
  | case2 _ _ _ _ ih | case4 _ _ _ _ ih | case5 _ _ _ _ _ ih => exact ih hNames.2

/-- A clause that is stepped over ends behind a parenthesis or in front of a keyword, so that no dot
is before what follows it. -/
theorem behind_clause {afterDot : Bool} {nesting : Nat} {lexemes : List Lexeme}
    (hNames : WellNamed afterDot lexemes) :
    WellNamed false (Reading.afterClause nesting lexemes) := by
  fun_induction Reading.afterClause nesting lexemes generalizing afterDot with
  | case1 => trivial
  | case2 _ lexeme rest word hToken _ => exact ⟨by simp [hToken, Token.WellNamed], hNames.2⟩
  | case5 lexeme rest hToken => exact hNames.tail (by simp [hToken])
  | case3 _ _ _ _ _ _ ih | case4 _ _ _ _ ih | case6 _ _ _ _ ih | case7 _ _ _ _ _ _ ih =>
      exact ih hNames.2

/-- The property is inherited, since the grammar never stops behind a dot. -/
theorem hereditary : Grammar.Hereditary (WellNamed false) where
  tail := tail
  property := by
    intro dot named rest name _ hName hNames
    exact tail (by simp [hName]) hNames.2
  content := by
    intro lexemes hNames
    obtain ⟨rest, hRest⟩ := Reading.splitGroup_prefix_content 0 lexemes
    rw [← hRest] at hNames
    exact hNames.of_append
  behind := behind_group
  skipped hNames := behind_clause hNames.2

end WellNamed

end QueryOutline
