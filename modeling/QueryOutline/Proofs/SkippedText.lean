import QueryOutline.Proofs.Grammar.Sequences

/-! Text that is stepped over says nothing. Whatever stands in a clause of no known kind, or in a
condition that is omitted, the statements before and behind it are the same. -/

namespace QueryOutline.Grammar

open Reading

/-- Lexemes that are stepped over as one clause: their parentheses are in pairs, and a token that
starts a clause stands within some of them. All else may be among them, also what is a fault
elsewhere. -/
structure Skippable (lexemes : List Lexeme) : Prop where
  paired : Paired lexemes
  enclosed : ∀ index : Fin lexemes.length, startsClause (lexemes.get index).token = true →
    markCount .closeParen (lexemes.take index) < markCount .openParen (lexemes.take index)

instance (lexemes : List Lexeme) : Decidable (Skippable lexemes) :=
  decidable_of_iff
    (Paired lexemes ∧ ∀ index : Fin lexemes.length,
      startsClause (lexemes.get index).token = true →
        markCount .closeParen (lexemes.take index) < markCount .openParen (lexemes.take index))
    ⟨fun hBoth => ⟨hBoth.1, hBoth.2⟩, fun hSkippable => ⟨hSkippable.paired, hSkippable.enclosed⟩⟩

/-- Lexemes that are stepped over if `nesting` parentheses were opened before. -/
structure SkippableWithin (nesting : Nat) (lexemes : List Lexeme) : Prop where
  paired : PairedWithin nesting lexemes
  enclosed : ∀ index : Fin lexemes.length, startsClause (lexemes.get index).token = true →
    markCount .closeParen (lexemes.take index) <
      markCount .openParen (lexemes.take index) + nesting

namespace SkippableWithin

variable {nesting : Nat} {lexeme : Lexeme} {lexemes : List Lexeme}

/-- An opening parenthesis is one more that shelters what follows. -/
theorem openParen (hToken : lexeme.token = .mark .openParen)
    (hSkippable : SkippableWithin nesting (lexeme :: lexemes)) :
    SkippableWithin (nesting + 1) lexemes where
  paired := hSkippable.paired.openParen hToken
  enclosed index hStarts := by
    have hCount := hSkippable.enclosed index.succ hStarts
    simp only [Fin.val_succ, List.take_succ_cons] at hCount
    rw [markCount_cons_self hToken, markCount_cons_ne (by simp [hToken])] at hCount
    omega

/-- A closing parenthesis closes one that was opened before, since they are in pairs. -/
theorem closeParen (hToken : lexeme.token = .mark .closeParen)
    (hSkippable : SkippableWithin nesting (lexeme :: lexemes)) :
    ∃ outer, nesting = outer + 1 ∧ SkippableWithin outer lexemes := by
  obtain ⟨outer, rfl, hPaired⟩ := hSkippable.paired.closeParen hToken
  refine ⟨outer, rfl, hPaired, ?_⟩
  intro index hStarts
  have hCount := hSkippable.enclosed index.succ hStarts
  simp only [Fin.val_succ, List.take_succ_cons] at hCount
  rw [markCount_cons_self hToken, markCount_cons_ne (by simp [hToken])] at hCount
  omega

theorem plain (hOpen : lexeme.token ≠ .mark .openParen) (hClose : lexeme.token ≠ .mark .closeParen)
    (hSkippable : SkippableWithin nesting (lexeme :: lexemes)) :
    SkippableWithin nesting lexemes where
  paired := hSkippable.paired.plain hOpen hClose
  enclosed index hStarts := by
    have hCount := hSkippable.enclosed index.succ hStarts
    simp only [Fin.val_succ, List.take_succ_cons] at hCount
    rwa [markCount_cons_ne hOpen, markCount_cons_ne hClose] at hCount

/-- A token that starts a clause does not stand first outside of parentheses. -/
theorem startsClause_head (hSkippable : SkippableWithin 0 (lexeme :: lexemes)) :
    startsClause lexeme.token = false := by
  by_contra hStarts
  have hCount := hSkippable.enclosed 0 (by simpa using hStarts)
  exact absurd hCount (by simp [markCount])

/-- The lexemes are stepped over up to the clause behind them. -/
theorem afterClause_append {more : List Lexeme} (hSkippable : SkippableWithin nesting lexemes)
    (hMore : StartsClause more) : afterClause nesting (lexemes ++ more) = more := by
  induction lexemes generalizing nesting with
  | nil =>
      obtain rfl := hSkippable.paired.eq_zero
      exact hMore.afterClause_eq
  | cons lexeme lexemes ih =>
      rw [List.cons_append]
      by_cases hOpen : lexeme.token = .mark .openParen
      · simp only [afterClause, hOpen]
        exact ih (hSkippable.openParen hOpen)
      by_cases hClose : lexeme.token = .mark .closeParen
      · obtain ⟨outer, rfl, hInside⟩ := hSkippable.closeParen hClose
        simp only [afterClause, hClose]
        exact ih hInside
      by_cases hKeyword : ∃ word, lexeme.token = .keyword word
      · obtain ⟨word, hWord⟩ := hKeyword
        have hGo : ¬(nesting = 0 ∧ word.startsClause = true) := by
          rintro ⟨rfl, hStarts⟩
          have hHead := hSkippable.startsClause_head
          simp [hWord, startsClause, hStarts] at hHead
        simp only [afterClause, hWord, hGo, if_false]
        exact ih (hSkippable.plain hOpen hClose)
      · rw [afterClause_cons_plain (not_exists.mp hKeyword) hOpen hClose]
        exact ih (hSkippable.plain hOpen hClose)

end SkippableWithin

/-- The lexemes are stepped over as one clause, which ends where they do. -/
theorem Skippable.afterClause_append {lexemes more : List Lexeme} (hSkippable : Skippable lexemes)
    (hMore : StartsClause more) : afterClause 0 (lexemes ++ more) = more :=
  SkippableWithin.afterClause_append ⟨hSkippable.paired.within, hSkippable.enclosed⟩ hMore

section Bodies

variable {budget : Nat} {scope : Scope} {lexeme : Lexeme} {skipped more : List Lexeme}

/-- A clause of no known kind adds nothing to a body. -/
theorem scopeBody_skipped (hToken : opensStatement lexeme.token = false)
    (hSkipped : Skippable skipped) (hMore : StartsClause more) :
    (scopeBody budget scope (lexeme :: (skipped ++ more))).result =
      (scopeBody budget scope more).result := by
  have hClause : Derives (.clause scope.omitsBodies (lexeme :: (skipped ++ more)) none
      (afterClause 0 (skipped ++ more))) := .skipped hToken
  rw [hSkipped.afterClause_append hMore] at hClause
  rw [hClause.scopeBody_clause (Nat.zero_le _)]
  cases (scopeBody budget scope more).result <;> rfl

/-- The keyword of a clause with a body, and the statement it gives where bodies are omitted. -/
def OmitsTo (token : Token) (statement : Statement) : Prop :=
  (token = .keyword .filter ∧ statement = .omittedFilter) ∨
    (token = .keyword .sort ∧ statement = .omittedSort)

/-- Where bodies are omitted, a filter or a sort adds its place to a body and nothing else. -/
theorem scopeBody_omitted {statement : Statement} (hOmits : scope.omitsBodies = true)
    (hToken : OmitsTo lexeme.token statement) (hSkipped : Skippable skipped)
    (hMore : StartsClause more) :
    (scopeBody budget scope (lexeme :: (skipped ++ more))).result =
      (scopeBody budget scope more).result.map (statement :: ·) := by
  have hClause : Derives (.clause scope.omitsBodies (lexeme :: (skipped ++ more)) (some statement)
      (afterClause 0 (skipped ++ more))) := by
    rw [hOmits]
    rcases hToken with ⟨hFilter, rfl⟩ | ⟨hSort, rfl⟩
    · exact .omittedFilter hFilter
    · exact .omittedSort hSort
  have hNesting : bodyNesting [statement] ≤ budget := by
    rcases hToken with ⟨-, rfl⟩ | ⟨-, rfl⟩ <;> exact Nat.zero_le _
  rw [hSkipped.afterClause_append hMore] at hClause
  exact hClause.scopeBody_clause hNesting

end Bodies

/-- Text that is stepped over never influences what is read, and never ends a reading. Behind
clauses that can be read by themselves, a clause of no known kind might as well be missing; and
where bodies are omitted, a filter or a sort gives its place whatever stands in it, between the
statements before it and those behind it. -/
theorem skipped_text_irrelevant {budget : Nat} {scope : Scope}
    {front skipped other more : List Lexeme} {values : List Statement} (hFront : Paired front)
    (hRead : (scopeBody budget scope front).result = .ok values) (hSkipped : Skippable skipped)
    (hOther : Skippable other) (hMore : StartsClause more) :
    (∀ lexeme : Lexeme, lexeme.token = .keyword .returns ∨ lexeme.token = .keyword .collect →
      (scopeBody budget scope (front ++ lexeme :: skipped ++ more)).result =
        (scopeBody budget scope (front ++ more)).result) ∧
    (scope.omitsBodies = true → ∀ (lexeme : Lexeme) (statement : Statement),
      OmitsTo lexeme.token statement →
      (scopeBody budget scope (front ++ lexeme :: skipped ++ more)).result =
        (scopeBody budget scope (front ++ lexeme :: other ++ more)).result ∧
      (scopeBody budget scope (front ++ lexeme :: skipped ++ more)).result =
        (scopeBody budget scope more).result.map fun others => values ++ statement :: others) := by
  obtain ⟨hDerived, hNesting⟩ := scopeBody_ok_iff.mp hRead
  -- Both kinds of keywords start a clause, so that the statements before them are read as they are.
  have hAppend : ∀ {behind : List Lexeme}, StartsClause behind →
      (scopeBody budget scope (front ++ behind)).result =
        (scopeBody budget scope behind).result.map (values ++ ·) :=
    fun hBehind => hDerived.scopeBody_append hNesting hFront.closed hBehind
  constructor
  · rintro lexeme hToken
    have hStarts : StartsClause (lexeme :: (skipped ++ more)) := by
      rintro _ ⟨⟩
      rcases hToken with hToken | hToken <;> rw [hToken] <;> rfl
    have hUnknown : opensStatement lexeme.token = false := by
      rcases hToken with hToken | hToken <;> rw [hToken] <;> rfl
    rw [List.append_assoc, List.cons_append, hAppend hStarts, hAppend hMore,
      scopeBody_skipped hUnknown hSkipped hMore]
  · rintro hOmits lexeme statement hToken
    have hResult : ∀ {between : List Lexeme}, Skippable between →
        (scopeBody budget scope (front ++ lexeme :: between ++ more)).result =
          (scopeBody budget scope more).result.map fun others => values ++ statement :: others := by
      intro between hBetween
      have hStarts : StartsClause (lexeme :: (between ++ more)) := by
        rintro _ ⟨⟩
        rcases hToken with ⟨hToken, -⟩ | ⟨hToken, -⟩ <;> rw [hToken] <;> rfl
      rw [List.append_assoc, List.cons_append, hAppend hStarts,
        scopeBody_omitted hOmits hToken hBetween hMore]
      cases (scopeBody budget scope more).result <;> rfl
    exact ⟨(hResult hSkipped).trans (hResult hOther).symm, hResult hSkipped⟩

/-- In a group, a clause with a stray sign, a keyword in parentheses and a quote without its partner
is stepped over, and so is a condition made of the same. -/
theorem skipped_text_irrelevant_group :
    (scopeBody 3 ⟨5, false, true, 60⟩ (lexemes "FOR x IN xs" ++ ⟨.keyword .returns, 12, 18⟩ ::
        lexemes "! (SORT x) 'open" ++ lexemes "LIMIT 5")).result =
      (scopeBody 3 ⟨5, false, true, 60⟩ (lexemes "FOR x IN xs" ++ lexemes "LIMIT 5")).result ∧
    (scopeBody 3 ⟨5, false, true, 60⟩ (lexemes "FOR x IN xs" ++ ⟨.keyword .filter, 12, 18⟩ ::
        lexemes "! (SORT x) 'open" ++ lexemes "LIMIT 5")).result =
      (scopeBody 3 ⟨5, false, true, 60⟩ (lexemes "FOR x IN xs" ++ ⟨.keyword .filter, 12, 18⟩ ::
        [] ++ lexemes "LIMIT 5")).result := by
  have hMore : StartsClause (lexemes "LIMIT 5") := by
    rintro _ ⟨⟩
    rfl
  have hBoth := @skipped_text_irrelevant 3 ⟨5, false, true, 60⟩ (lexemes "FOR x IN xs")
    (lexemes "! (SORT x) 'open") [] (lexemes "LIMIT 5") [.forIn "x" "xs"] (by decide +kernel) rfl
    (by decide +kernel) (by decide) hMore
  exact ⟨hBoth.1 _ (.inl rfl), (hBoth.2 rfl _ .omittedFilter (.inl ⟨rfl, rfl⟩)).1⟩

end QueryOutline.Grammar
