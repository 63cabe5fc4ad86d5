import QueryOutline.Proofs.Grammar.Relocation
import QueryOutline.Proofs.Lexeme.Layout

/-! Layout and the case of reserved words do not matter. A text that is written anew is read as the
same query, or ends with the same fault at the same token. -/

namespace QueryOutline

open Text

namespace Relocation

/-- The relocation from one text to another with as many lexemes: where a lexeme starts becomes
where the lexeme of the same index starts, and the end of the one text becomes that of the other. -/
def between (text other : String) (limit : Nat) : Relocation where
  Moves offset moved :=
    (∃ (i : Nat) (lexeme movedLexeme : Lexeme), (lexemes text)[i]? = some lexeme ∧
      (lexemes other)[i]? = some movedLexeme ∧ offset = lexeme.start ∧ moved = movedLexeme.start) ∨
    (offset = byteSize text.toList ∧ moved = byteSize other.toList)
  limit := limit
  newLimit := limit

/-- Texts with the same tokens are related by the relocation between them. -/
theorem lexemes_between {text other : String} {limit : Nat}
    (hTokens : (lexemes other).map Lexeme.token = (lexemes text).map Lexeme.token) :
    (between text other limit).Lexemes (lexemes text) (lexemes other) := by
  have hLength : (lexemes text).length = (lexemes other).length := by
    simpa using (congrArg List.length hTokens).symm
  refine List.forall₂_iff_get.mpr ⟨hLength, ?_⟩
  intro i hFirst hSecond
  constructor
  · have hToken := congrArg (·[i]?) hTokens
    simpa [hFirst, hSecond, eq_comm] using hToken
  · exact .inl ⟨i, _, _, List.getElem?_eq_getElem hFirst, List.getElem?_eq_getElem hSecond, rfl,
      rfl⟩

end Relocation

theorem relocated_tokens {text : String} {lexemes : List Lexeme} {words : List Spaced}
    (hWords : Relaid text lexemes words) (offset : Nat) :
    (relocated offset lexemes words).map Lexeme.token = lexemes.map Lexeme.token := by
  induction hWords generalizing offset with
  | nil => rfl
  | cons _ _ _ _ _ ih => simp only [relocated, List.map_cons, ih]

/-- A text with the same tokens is read in the same way. -/
theorem ofText_of_same_tokens {text other : String}
    (hTokens : (lexemes other).map Lexeme.token = (lexemes text).map Lexeme.token)
    (options : Options) :
    (Relocation.between text other options.maxDepth).Results Eq (Query.ofText options text)
      (Query.ofText options other) := by
  have hLexemes := @Relocation.lexemes_between text other options.maxDepth hTokens
  have hScopes : (Relocation.between text other options.maxDepth).Scopes
      (options.scope (byteSize text.toList) (lexemes text))
      (options.scope (byteSize other.toList) (lexemes other)) :=
    ⟨rfl, rfl, hLexemes.letBound options, .inr ⟨rfl, rfl⟩⟩
  have hBody : Relocation.Results _ _ _ _ := Relocation.Outcomes.scopeBody hScopes
    hLexemes options.maxDepth
  rw [Grammar.ofText_eq_map, Grammar.ofText_eq_map]
  generalize (Reading.scopeBody _ _ (lexemes text)).result = result at hBody ⊢
  generalize (Reading.scopeBody _ _ (lexemes other)).result = otherResult at hBody ⊢
  cases hBody with
  | ok hValues => exact .ok (congrArg Query.mk hValues)
  | error hFaults => exact .error hFaults

/-- What the lexemes of a text were read from can be written anew with any blanks between the words
and around them, and with reserved words in any case. The tokens are the same in the same order,
each where its word stands; and whatever the options, the same query is read, or the same fault is
found at the token of the same index or at the end of both texts. -/
theorem layout_irrelevant {text : String} {lead : List Char} {words : List Spaced}
    (hLead : isBlankText lead = true) (hWords : Relaid text (lexemes text) words) :
    lexemes (laidOut lead words) = relocated (byteSize lead) (lexemes text) words ∧
      ∀ options : Options,
        (Relocation.between text (laidOut lead words) options.maxDepth).Results Eq
          (Query.ofText options text) (Query.ofText options (laidOut lead words)) := by
  have hLexemes := lexemes_relaid hLead hWords
  refine ⟨hLexemes, ofText_of_same_tokens ?_⟩
  rw [hLexemes, relocated_tokens hWords]

/-- Keywords change their case, and the name behind the dot keeps it: the comma that should be a
count is found in both texts. -/
theorem layout_irrelevant_behind_dot :
    (Relocation.between "FOR d in c FILTER d.in<=-1.5 LIMIT,"
      "\tfor d IN\nc filter d .  in <= -1.5 Limit ,\n" 8).Results Eq
      (.error (.expectedExpression 34 (some (.mark .comma))))
      (Query.ofText ⟨8, false⟩ "\tfor d IN\nc filter d .  in <= -1.5 Limit ,\n") := by
  have hBoth := @layout_irrelevant "FOR d in c FILTER d.in<=-1.5 LIMIT," ['\t']
    [⟨"for".toList, [' ']⟩, ⟨['d'], [' ']⟩, ⟨"IN".toList, ['\n']⟩, ⟨['c'], [' ']⟩,
      ⟨"filter".toList, [' ']⟩, ⟨['d'], [' ']⟩, ⟨['.'], [' ', ' ']⟩, ⟨"in".toList, [' ']⟩,
      ⟨"<=".toList, [' ']⟩, ⟨"-1.5".toList, [' ']⟩, ⟨"Limit".toList, [' ']⟩, ⟨[','], ['\n']⟩]
    (by decide) (by decide +kernel)
  exact hBoth.2 ⟨8, false⟩

end QueryOutline
