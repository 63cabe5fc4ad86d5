import QueryOutline.Proofs.Checked.Statements

/-! A query text is scanned and read by positions and counters, and no check on the way fails. -/

namespace QueryOutline.Checked

/-- The run on the session of a whole text follows the reading of the text. It starts at depth zero,
with as much room as there are lexemes. -/
theorem query_follows (options : Options) (bytes : Nat) (lexemes : List Lexeme) :
    Follows (query options bytes lexemes) (.ofLexemes options bytes lexemes)
      (Query.ofLexemes options bytes lexemes).toEnd := by
  obtain ⟨hExpressions, hGroups⟩ := room_suffices lexemes.length options.maxDepth lexemes.length
  have hSession : (Session.ofLexemes options bytes lexemes).depth + lexemes.length =
      lexemes.length := Nat.zero_add _
  have hBody := (body_follows hExpressions hGroups hSession (Nat.le_refl _)).map Query.mk
  rw [Outcome.toEnd_map] at hBody
  rw [query, Query.ofLexemes, Outcome.toEnd_bind]
  refine Follows.emit_bind ?_
  exact hBody

/-- Every check of the scanner and of the reading is passed, whatever the text and the options: the
text is cut between characters only, a range of bytes or of lexemes never ends before it starts or
behind what it is taken from, no counter goes below zero, there are no more levels of nesting than
lexemes in the text, every loop has an end, and only a name is taken for the name of a function.
What comes out are the lexemes of the text, and the query or the fault of its reading. -/
theorem checks_pass (options : Options) (text : String) :
    lexemes text = some (QueryOutline.lexemes text) ∧
      read options text = some (Query.read options text) := by
  have hLexemes := lexemes_eq text
  obtain ⟨last, hRun⟩ := (query_follows options (Text.byteSize text.toList)
    (QueryOutline.lexemes text)).exists_eq_some
  refine ⟨hLexemes, ?_⟩
  simp only [read, hLexemes, Option.bind_eq_bind, Option.bind_some, hRun]
  rfl

end QueryOutline.Checked
