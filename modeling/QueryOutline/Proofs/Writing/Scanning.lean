import QueryOutline.Proofs.Grammar.Rules
import QueryOutline.Proofs.Lexeme.Spelling

/-! A written outline is scanned as it was written: each of its pieces is found among the lexemes,
in order and with nothing between them. -/

namespace QueryOutline

open Number Text Grammar

/-- A name that an expression can be: that of a variable or of a parameter. -/
def IsReference (name : String) : Prop :=
  IsName name.toList ∨ IsParameter name.toList

/-- A name that a function can have: one that is its own capital form, or a keyword. -/
def IsFunctionName (name : String) : Prop :=
  (IsName name.toList ∧ capitals name = name) ∨ ∃ word : Keyword, name = word.spelling

/-- A name that a collection can have. A decimal number is one, too. -/
def IsCollectionName (name : String) : Prop :=
  IsReference name ∨ ∃ value : Decimal, name = value.text

namespace Piece

def WellFormed : Piece → Prop
  | .keyword _ => True
  | .mark sign => sign ≠ .dot
  | .literal value => ∀ number, value ≠ .float number
  | .variableName name => IsName name.toList
  | .reference name => IsReference name
  | .property name => IsWord name.toList
  | .function name => IsFunctionName name
  | .collection name => IsCollectionName name

/-- The token is what a piece of one word is scanned as. -/
def Denotes : Piece → Token → Prop
  | .keyword word, token => token = .keyword word
  | .mark sign, token => token = .mark sign
  | .literal value, token => literal? token = some value
  | .variableName name, token => token = .identifier name
  | .reference name, token => token = .identifier name ∨ token = .parameter name
  | .property _, _ => False
  | .function name, token =>
      (token = .identifier name ∧ capitals name = name ∧ ¬IsReserved name.toList) ∨
        ∃ word, token = .keyword word ∧ name = word.spelling
  | .collection name, token => Reading.collection? token = some name

def IsLet (piece : Piece) : Prop :=
  piece = .keyword .letBe ∨ piece = .function Keyword.letBe.spelling

end Piece

theorem IsReference.exists_spells {name : String} (hName : IsReference name) :
    ∃ token, Spells false name.toList token ∧
      (token = .identifier name ∨ token = .parameter name) := by
  rcases hName with hName | hParameter
  · exact ⟨_, hName.spells, .inl rfl⟩
  · exact ⟨_, hParameter.spells false, .inr rfl⟩

/-- The name of a function is scanned as a name or as a keyword, and both stand for it in front of a
parenthesis. -/
theorem IsFunctionName.exists_spells {name : String} (hName : IsFunctionName name) :
    ∃ token, Spells false name.toList token ∧ (Piece.function name).Denotes token := by
  rcases hName with ⟨hName, hCapitals⟩ | ⟨word, rfl⟩
  · exact ⟨_, hName.spells, .inl ⟨rfl, hCapitals, hName.2⟩⟩
  · exact ⟨_, spells_keyword word, .inr ⟨word, rfl, rfl⟩⟩

/-- A number that names a collection is scanned as a number, and its text is the name again. -/
theorem IsCollectionName.exists_spells {name : String} (hName : IsCollectionName name) :
    ∃ token, Spells false name.toList token ∧ Reading.collection? token = some name := by
  rcases hName with hName | ⟨value, rfl⟩
  · obtain ⟨token, hSpells, rfl | rfl⟩ := hName.exists_spells
    · exact ⟨_, hSpells, rfl⟩
    · exact ⟨_, hSpells, rfl⟩
  · refine ⟨.number value, ?_, rfl⟩
    rw [Decimal.text, String.toList_ofList]
    exact spells_decimal false value

/-- Nothing but the piece that is a mark is scanned as the mark. -/
theorem Piece.Denotes.ne_mark {piece : Piece} {token : Token} (hDenotes : piece.Denotes token)
    {sign : Mark} (hPiece : piece ≠ .mark sign) : token ≠ .mark sign := by
  intro hMark
  subst hMark
  cases piece with
  | mark other => exact hPiece (by rw [Token.mark.inj hDenotes])
  | function name =>
      rcases hDenotes with ⟨hToken, -⟩ | ⟨word, hToken, -⟩ <;> cases hToken
  | reference name => rcases hDenotes with hToken | hToken <;> cases hToken
  | keyword _ | literal _ | variableName _ | property _ | collection _ => cases hDenotes

theorem Piece.Denotes.isOpenString {piece : Piece} {token : Token}
    (hDenotes : piece.Denotes token) : token.isOpenString = false := by
  cases token with
  | openString value =>
      cases piece with
      | function name =>
          rcases hDenotes with ⟨hToken, -⟩ | ⟨word, hToken, -⟩ <;> cases hToken
      | reference name => rcases hDenotes with hToken | hToken <;> cases hToken
      | keyword _ | mark _ | literal _ | variableName _ | property _ | collection _ =>
          cases hDenotes
  | _ => rfl

theorem Piece.WellFormed.ne_dot {piece : Piece} (hPiece : piece.WellFormed) :
    piece ≠ .mark .dot := by
  intro hDot
  subst hDot
  exact hPiece rfl

/-- A piece is a property, or it is one word and scanned as what denotes it. -/
theorem Piece.WellFormed.cases {piece : Piece} (hPiece : piece.WellFormed) :
    (∃ name, piece = .property name) ∨
      ∃ word token, piece.words = [word] ∧ Spells false word token ∧ piece.Denotes token := by
  cases piece with
  | property name => exact .inl ⟨name, rfl⟩
  | keyword word => exact .inr ⟨_, _, rfl, spells_keyword word, rfl⟩
  | mark sign => exact .inr ⟨_, _, rfl, spells_mark false sign, rfl⟩
  | literal value =>
      obtain ⟨token, hSpells, hDenotes⟩ := Literal.exists_spells hPiece
      exact .inr ⟨_, token, rfl, hSpells, hDenotes⟩
  | variableName name => exact .inr ⟨_, _, rfl, IsName.spells hPiece, rfl⟩
  | reference name =>
      obtain ⟨token, hSpells, hDenotes⟩ := IsReference.exists_spells hPiece
      exact .inr ⟨_, token, rfl, hSpells, hDenotes⟩
  | function name =>
      obtain ⟨token, hSpells, hDenotes⟩ := IsFunctionName.exists_spells hPiece
      exact .inr ⟨_, token, rfl, hSpells, hDenotes⟩
  | collection name =>
      obtain ⟨token, hSpells, hDenotes⟩ := IsCollectionName.exists_spells hPiece
      exact .inr ⟨_, token, rfl, hSpells, hDenotes⟩

/-- The lexemes are what the pieces are scanned as, one for each piece and two for a property. -/
inductive Spelled : List Piece → List Lexeme → Prop where
  | nil : Spelled [] []
  | word {piece : Piece} {pieces : List Piece} {lexeme : Lexeme} {lexemes : List Lexeme}
      (hDenotes : piece.Denotes lexeme.token) (hRest : Spelled pieces lexemes) :
      Spelled (piece :: pieces) (lexeme :: lexemes)
  | property {name : String} {pieces : List Piece} {dot named : Lexeme} {lexemes : List Lexeme}
      (hDot : dot.token = .mark .dot) (hName : named.token = .identifier name)
      (hRest : Spelled pieces lexemes) :
      Spelled (.property name :: pieces) (dot :: named :: lexemes)

/-- Behind the first of some words there is a gap, and behind its blanks are the others. -/
theorem spaced_cons (word : List Char) (words : List (List Char)) :
    ∃ gap, StartsApart gap ∧ spaced (word :: words) = word ++ gap ∧
      gap.dropWhile isBlank = (spaced words).dropWhile isBlank := by
  cases words with
  | nil => exact ⟨[], startsApart_nil, by simp [spaced, List.intercalate], rfl⟩
  | cons second words =>
      refine ⟨' ' :: spaced (second :: words), startsApart_cons.mpr (by decide), ?_, ?_⟩
      · simp [spaced, List.intercalate]
      · have hSpace : isBlank ' ' = true := by decide
        simp [hSpace]

/-- A scanner in front of words takes the first of them as the token that it spells, and is then in
front of the others. -/
theorem Scanner.next_spelled {scanner : Scanner} {word : List Char} {words : List (List Char)}
    {token : Token} (hSpells : Spells scanner.afterDot word token)
    (hClosed : token.isOpenString = false)
    (hRest : scanner.rest.dropWhile isBlank = (spaced (word :: words)).dropWhile isBlank) :
    ∃ (lexeme : Lexeme) (after : Scanner), scanner.lexemes = lexeme :: after.lexemes ∧
      lexeme.token = token ∧
      after.afterDot = (token == .mark .dot) ∧
      after.rest.dropWhile isBlank = (spaced words).dropWhile isBlank := by
  obtain ⟨c, rest, rfl, hSolid, hScan⟩ := hSpells.exists_scanToken hClosed
  obtain ⟨gap, hGap, hSpaced, hBehind⟩ := spaced_cons (c :: rest) words
  have hText : scanner.rest.dropWhile isBlank = c :: (rest ++ gap) := by
    rw [hRest, hSpaced, List.cons_append, List.dropWhile_cons_of_neg (by simp [hSolid])]
  rw [lexemes_eq]
  simp only [next, hText, hScan gap hGap]
  exact ⟨_, _, rfl, rfl, rfl, hBehind⟩

/-- The lexemes from a scanner in front of the words of pieces on are those of the pieces. -/
theorem Scanner.spelled_lexemes {pieces : List Piece} (hPieces : ∀ piece ∈ pieces, piece.WellFormed)
    {scanner : Scanner} (hDot : scanner.afterDot = false)
    (hRest : scanner.rest.dropWhile isBlank =
      (spaced (pieces.flatMap Piece.words)).dropWhile isBlank) :
    Spelled pieces scanner.lexemes := by
  induction pieces generalizing scanner with
  | nil =>
      have hEnd : scanner.rest.dropWhile isBlank = [] := hRest
      rw [lexemes_eq]
      simp only [next, hEnd]
      exact .nil
  | cons piece pieces ih =>
      obtain ⟨hPiece, hMore⟩ := List.forall_mem_cons.mp hPieces
      rw [List.flatMap_cons] at hRest
      rcases hPiece.cases with ⟨name, rfl⟩ | ⟨word, token, hWords, hSpells, hDenotes⟩
      · obtain ⟨dot, behindDot, hFirst, hToken, hAfterDot, hBehind⟩ :=
          Scanner.next_spelled (hDot ▸ spells_mark false .dot) rfl hRest
        have hAfterDot : behindDot.afterDot = true := by simpa using hAfterDot
        have hSpells := hAfterDot ▸ IsWord.spells_property hPiece
        obtain ⟨named, after, hSecond, hName, hNoDot, hAfter⟩ :=
          Scanner.next_spelled hSpells rfl hBehind
        rw [hFirst, hSecond]
        exact .property hToken hName (ih hMore (hNoDot.trans (by simp)) hAfter)
      · rw [hWords, List.singleton_append] at hRest
        obtain ⟨lexeme, after, hFirst, rfl, hNoDot, hAfter⟩ :=
          Scanner.next_spelled (hDot ▸ hSpells) hDenotes.isOpenString hRest
        have hAfterWord : after.afterDot = false :=
          hNoDot.trans (by simpa using hDenotes.ne_mark hPiece.ne_dot)
        rw [hFirst]
        exact .word hDenotes (ih hMore hAfterWord hAfter)

/-- The lexemes of a written outline are those of its pieces. -/
theorem Query.spelled_lexemes {query : Query}
    (hPieces : ∀ piece ∈ bodyPieces query.body, piece.WellFormed) :
    Spelled (bodyPieces query.body) (lexemes query.text) := by
  apply Scanner.spelled_lexemes hPieces rfl
  simp [Scanner.ofText, Query.text]

theorem Keyword.eq_letBe_of_spelling {word : Keyword}
    (hSpelling : Keyword.letBe.spelling = word.spelling) : word = .letBe := by
  cases word with
  | letBe => rfl
  | forIn | filter | sort | limit | returns | collect | isIn | and | or | like | asc | desc =>
      exact absurd hSpelling (by decide)

/-- The keyword of a binding is scanned where a piece brings it, and nowhere else. -/
theorem Piece.Denotes.eq_letBe_iff {piece : Piece} {token : Token}
    (hDenotes : piece.Denotes token) : token = .keyword .letBe ↔ piece.IsLet := by
  unfold IsLet
  cases piece with
  | function name =>
      rcases hDenotes with ⟨rfl, -, hFree⟩ | ⟨word, rfl, rfl⟩
      · have hOther : name ≠ Keyword.letBe.spelling := by
          intro hName
          subst hName
          exact hFree (by decide)
        simp [hOther]
      · constructor
        · rintro ⟨⟩
          exact .inr rfl
        · rintro (hKeyword | hFunction)
          · cases hKeyword
          · rw [Keyword.eq_letBe_of_spelling (Piece.function.inj hFunction).symm]
  | keyword word =>
      obtain rfl := hDenotes
      simp
  | reference name => rcases hDenotes with rfl | rfl <;> simp
  | mark _ | variableName _ =>
      obtain rfl := hDenotes
      simp
  | property _ => exact hDenotes.elim
  | literal _ | collection _ =>
      refine iff_of_false ?_ (by simp)
      intro hToken
      subst hToken
      cases hDenotes

/-- The lexemes of a written query bind variables exactly if one of its pieces brings the
keyword. -/
theorem Spelled.exists_letBe_iff {pieces : List Piece} {lexemes : List Lexeme}
    (hSpelled : Spelled pieces lexemes) :
    (∃ lexeme ∈ lexemes, lexeme.token = .keyword .letBe) ↔ ∃ piece ∈ pieces, piece.IsLet := by
  induction hSpelled with
  | nil => simp
  | word hDenotes _ ih => simp [hDenotes.eq_letBe_iff, ih]
  | property hDot hName _ ih => simp [hDot, hName, ih, Piece.IsLet]

end QueryOutline
