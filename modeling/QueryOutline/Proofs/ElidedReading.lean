import QueryOutline.Proofs.Grammar.NextStatement

/-! A query that is read without its conditions and sort keys. Where these are read, the grammar of
expressions says where they end, and else the parentheses and the keywords behind them do. The two
ways give the same statements unless a keyword in a condition names a function, or a parenthesis is
left open around a clause. -/

namespace QueryOutline

namespace Grammar

open Reading

section Readings

/-- The places of two readings of the same lexemes, the first one with the bodies of clauses and the
second one without them. They are at the same place, or the second one has stepped over some clauses
more, within parentheses that have no keyword of a statement directly in them, or the first one has
done so. -/
inductive InStep : List Lexeme → List Lexeme → Prop where
  | together (lexemes : List Lexeme) : InStep lexemes lexemes
  | ahead {nesting : Nat} {lexemes : List Lexeme} (hSheltered : Sheltered 0 nesting lexemes) :
      InStep lexemes (nextStatement nesting lexemes)
  | behind (lexemes : List Lexeme) : InStep (nextStatement 0 lexemes) lexemes

namespace InStep

variable {nesting : Nat} {lexeme : Lexeme} {lexemes full elided : List Lexeme}

/-- Where the readings are not at the same place, one of them is at a clause to be stepped over. -/
theorem cases_head (hInStep : InStep full elided) :
    full = elided ∨
    (∃ lexeme lexemes nesting, full = lexeme :: lexemes ∧ opensStatement lexeme.token = false ∧
      Sheltered 0 nesting full ∧ elided = nextStatement nesting full) ∨
    ∃ lexeme lexemes, elided = lexeme :: lexemes ∧ opensStatement lexeme.token = false ∧
      full = nextStatement 0 elided := by
  cases hInStep with
  | together => exact .inl rfl
  | @ahead nesting _ hSheltered =>
      cases full with
      | nil => exact .inl rfl
      | cons lexeme lexemes =>
          cases hToken : opensStatement lexeme.token with
          | false => exact .inr (.inl ⟨lexeme, lexemes, nesting, rfl, hToken, hSheltered, rfl⟩)
          | true =>
              obtain rfl := hSheltered.eq_zero hToken
              exact .inl (nextStatement_opens hToken lexemes).symm
  | behind =>
      cases elided with
      | nil => exact .inl rfl
      | cons lexeme lexemes =>
          cases hToken : opensStatement lexeme.token with
          | false => exact .inr (.inr ⟨lexeme, lexemes, rfl, hToken, rfl⟩)
          | true => exact .inl (nextStatement_opens hToken lexemes)

/-- With a parenthesis more or less open, the next statement is the same or lies further on. -/
theorem of_sheltered (hSheltered : Sheltered 0 nesting lexemes) :
    InStep (nextStatement 0 lexemes) (nextStatement nesting lexemes) := by
  cases nesting with
  | zero => exact together _
  | succ nesting =>
      rw [← Nat.zero_add nesting] at hSheltered
      obtain ⟨hNested, hBehind⟩ := nextStatement_nested hSheltered
      rw [Nat.zero_add] at hNested
      rw [hNested]
      exact ahead hBehind

/-- The first reading steps over a clause, while the second one has done so already. -/
theorem skip_full (hToken : opensStatement lexeme.token = false)
    (hSheltered : Sheltered 0 nesting (lexeme :: lexemes))
    (hStep : (ClauseStep.mk (lexeme :: lexemes) none (afterClause 0 lexemes)).Sheltered) :
    InStep (nextStatement 0 lexemes) (nextStatement nesting (lexeme :: lexemes)) := by
  by_cases hClose : lexeme.token = .mark .closeParen ∧ nesting = 0
  · obtain ⟨hClosing, rfl⟩ := hClose
    rw [nextStatement_close hClosing]
    exact behind lexemes
  · rw [nextStatement_inside (by simp [hToken]) fun hClosing hZero => hClose ⟨hClosing, hZero⟩]
    exact of_sheltered ((Sheltered.of_skipped hStep).trans (sheltered_cons_iff.mp hSheltered).2)

/-- The second reading steps over a clause, while the first one has done so already. -/
theorem skip_elided (hToken : opensStatement lexeme.token = false)
    (hStep : (ClauseStep.mk (lexeme :: lexemes) none (afterClause 0 lexemes)).Sheltered) :
    InStep (nextStatement 0 (lexeme :: lexemes)) (nextStatement 0 lexemes) := by
  by_cases hClosing : lexeme.token = .mark .closeParen
  · rw [nextStatement_close hClosing]
    exact ahead (Sheltered.refl 0 lexemes)
  · rw [nextStatement_inside (by simp [hToken]) fun hClose => absurd hClose hClosing]
    have hSheltered := Sheltered.of_skipped hStep
    by_cases hOpening : lexeme.token = .mark .openParen
    · rw [nestingBehind_open hOpening] at hSheltered ⊢
      obtain ⟨hNested, -⟩ := @nextStatement_nested _ 0 0 hSheltered
      rw [hNested]
      exact behind _
    · rw [nestingBehind_plain hOpening hClosing]
      exact together _

end InStep

/-- A clause without a body is the same in both readings. -/
theorem Derives.clause_unelided {lexemes rest : List Lexeme} {statement : Statement}
    (hBody : ¬statement.HasBody)
    (derivation : Derives (.clause false lexemes (some statement) rest)) :
    Derives (.clause true lexemes (some statement) rest) := by
  cases derivation with
  | forIn hToken hName hSource hCollection => exact .forIn hToken hName hSource hCollection
  | filter | sort => exact absurd trivial hBody
  | limitCount hToken hCount hEnd => exact .limitCount hToken hCount hEnd
  | limitBoth hToken hOffset hComma hCount => exact .limitBoth hToken hOffset hComma hCount
  | letBe hToken hName hValue => exact .letBe hToken hName hValue

/-- Where a clause has a body, the second reading steps over it. -/
theorem Derives.clause_elided {lexeme : Lexeme} {lexemes rest : List Lexeme} {statement : Statement}
    (hBody : statement.HasBody)
    (derivation : Derives (.clause false (lexeme :: lexemes) (some statement) rest)) :
    Derives (.clause true (lexeme :: lexemes) (some statement.elided) (afterClause 0 lexemes)) ∧
      Takes lexemes rest := by
  cases derivation with
  | filter hToken hCondition => exact ⟨.omittedFilter hToken, hCondition.takes⟩
  | sort hToken hCriteria => exact ⟨.omittedSort hToken, hCriteria.takes⟩
  | forIn | limitCount | limitBoth | letBe => exact hBody.elim

/-- The clauses of a reading are such that bodies can be omitted. In a body, a keyword of a
statement stands in parentheses only. A body leaves no parenthesis open that has such a keyword
directly in it, and nor does a clause that is stepped over. -/
structure Orderly (budget : Nat) (scope : Scope) (lexemes : List Lexeme) : Prop where
  enclosed : ∀ step ∈ clauseSteps budget scope lexemes, step.HasBody → Enclosed 0 step.body
  sheltered : ∀ step ∈ clauseSteps budget scope lexemes, step.statement = none ∨ step.HasBody →
    step.Sheltered

namespace Orderly

variable {budget : Nat} {scope : Scope} {lexeme : Lexeme} {lexemes rest : List Lexeme}

/-- Fewer clauses are as orderly as all of them. -/
theorem of_suffix (hOrderly : Orderly budget scope lexemes)
    (hSuffix : clauseSteps budget scope rest <:+ clauseSteps budget scope lexemes) :
    Orderly budget scope rest where
  enclosed step hStep := hOrderly.enclosed step (hSuffix.subset hStep)
  sheltered step hStep := hOrderly.sheltered step (hSuffix.subset hStep)

theorem behind_clause {value : Option Statement} (hOrderly : Orderly budget scope lexemes)
    (derivation : Derives (.clause scope.omitsBodies lexemes value rest))
    (hNesting : bodyNesting value.toList ≤ budget) : Orderly budget scope rest := by
  apply hOrderly.of_suffix
  rw [derivation.clauseSteps_eq hNesting]
  exact List.suffix_cons _ _

theorem behind_skipped (hOrderly : Orderly budget scope (afterClause 0 lexemes)) :
    Orderly budget scope (nextStatement 0 lexemes) :=
  hOrderly.of_suffix (clauseSteps_nextStatement_suffix 0 lexemes)

/-- A clause that is stepped over leaves nothing open, and the clauses behind it are orderly. -/
theorem skip (hOrderly : Orderly budget scope (lexeme :: lexemes))
    (hToken : opensStatement lexeme.token = false) :
    (ClauseStep.mk (lexeme :: lexemes) none (afterClause 0 lexemes)).Sheltered ∧
      Orderly budget scope (nextStatement 0 lexemes) := by
  constructor
  · apply hOrderly.sheltered _ _ (.inl rfl)
    rw [clauseSteps_skip hToken]
    exact List.mem_cons_self ..
  · exact (hOrderly.behind_clause (.skipped hToken) (Nat.zero_le _)).behind_skipped

/-- Behind a body the readings are in step. -/
theorem inStep_body {statement : Statement} (hOrderly : Orderly budget scope (lexeme :: lexemes))
    (hBody : statement.HasBody)
    (derivation : Derives (.clause scope.omitsBodies (lexeme :: lexemes) (some statement) rest))
    (hNesting : bodyNesting [statement] ≤ budget) (hTakes : Takes lexemes rest) :
    InStep rest (nextStatement 0 lexemes) := by
  obtain ⟨taken, rfl, hContained⟩ := hTakes
  have hStep : ClauseStep.mk (lexeme :: (taken ++ rest)) (some statement) rest ∈
      clauseSteps budget scope (lexeme :: (taken ++ rest)) := by
    rw [derivation.clauseSteps_eq hNesting]
    exact List.mem_cons_self ..
  have hHasBody : (ClauseStep.mk (lexeme :: (taken ++ rest)) (some statement) rest).HasBody :=
    ⟨statement, rfl, hBody⟩
  have hTaken : (ClauseStep.mk (lexeme :: (taken ++ rest)) (some statement) rest).taken =
      lexeme :: taken := ClauseStep.taken_append (lexeme :: taken) rest (some statement)
  have hEnclosed := hOrderly.enclosed _ hStep hHasBody
  have hSheltered := hOrderly.sheltered _ hStep (.inr hHasBody)
  rw [ClauseStep.body, hTaken] at hEnclosed
  rw [ClauseStep.Sheltered, hTaken, openParens_cons,
    nestingBehind_of_opensStatement derivation.clause_opens] at hSheltered
  rw [nextStatement_append hContained hEnclosed]
  exact .ahead hSheltered

end Orderly

/-- Both readings take a clause that gives a statement, and are in step behind it. -/
theorem inStep_clause {budget : Nat} {first second : Scope} {lexeme : Lexeme}
    {lexemes rest : List Lexeme} {statement : Statement} (hFirst : first.omitsBodies = false)
    (hSecond : second.omitsBodies = true) (hFull : Orderly budget first (lexeme :: lexemes))
    (hElided : Orderly budget second (lexeme :: lexemes))
    (derivation : Derives (.clause false (lexeme :: lexemes) (some statement) rest))
    (hNesting : bodyNesting [statement] ≤ budget) :
    ∃ behind, InStep rest behind ∧ behind.length ≤ lexemes.length ∧
      Orderly budget second behind ∧
      ∀ {others}, Derives (.body true behind others) →
        Derives (.body true (lexeme :: lexemes) (statement.elided :: others)) := by
  by_cases hBody : statement.HasBody
  · obtain ⟨hOmitted, hTakes⟩ := derivation.clause_elided hBody
    have hElidedNesting : bodyNesting (some statement.elided).toList ≤ budget :=
      (bodyNesting_map_elided_le [statement]).trans hNesting
    refine ⟨nextStatement 0 lexemes, ?_, nextStatement_length_le 0 lexemes, ?_, ?_⟩
    · exact hFull.inStep_body hBody (hFirst ▸ derivation) hNesting hTakes
    · exact (hElided.behind_clause (hSecond ▸ hOmitted) hElidedNesting).behind_skipped
    · intro others hOthers
      exact .bodyStep hOmitted (body_afterClause_iff.mpr hOthers)
  · have hSame := derivation.clause_unelided hBody
    have hSameNesting : bodyNesting (some statement).toList ≤ budget := hNesting
    refine ⟨rest, .together rest, Nat.le_of_lt_succ derivation.advances.2, ?_, ?_⟩
    · exact hElided.behind_clause (hSecond ▸ hSame) hSameNesting
    · intro others hOthers
      rw [Statement.elided_eq_self hBody]
      exact .bodyStep hSame hOthers

/-- From places that are in step, the reading without bodies gives what is left of the statements of
the other one. Either reading may have to step over clauses before both are at the next statement,
so that the induction is on what is left for both of them. -/
theorem InStep.derives_elided {budget : Nat} {first second : Scope} {full elided : List Lexeme}
    {values : List Statement} (hInStep : InStep full elided)
    (derivation : Derives (.body false full values)) (hNesting : bodyNesting values ≤ budget)
    (hFull : Orderly budget first full) (hElided : Orderly budget second elided)
    (hFirst : first.omitsBodies = false) (hSecond : second.omitsBodies = true) :
    Derives (.body true elided (values.map Statement.elided)) := by
  induction hBound : full.length + elided.length using Nat.strong_induction_on
    generalizing full elided values with
  | _ bound ih =>
  subst hBound
  rcases hInStep.cases_head with rfl | ⟨lexeme, lexemes, nesting, rfl, hToken, hSheltered, rfl⟩ |
    ⟨lexeme, lexemes, rfl, hToken, rfl⟩
  · -- Both are at the same clause.
    cases derivation with
    | bodyEnd => exact .bodyEnd
    | @bodyStep _ _ rest value values hClause hMore =>
        obtain ⟨lexeme, lexemes, rfl⟩ := hClause.clause_cons
        have hShorter := hClause.advances.2
        rw [bodyNesting_append] at hNesting
        have hRest := hFull.behind_clause (hFirst ▸ hClause) (by omega)
        cases value with
        | none =>
            cases hClause with
            | skipped hToken =>
                rw [body_skip_iff hToken]
                exact ih _ (by omega) (.together _) hMore hNesting hRest
                  (hElided.behind_clause (.skipped hToken) (Nat.zero_le _)) rfl
        | some statement =>
            simp only [Option.toList_some] at hNesting
            obtain ⟨behind, hBehind, hLength, hOrderly, hBody⟩ := inStep_clause hFirst hSecond
              hFull hElided hClause (by omega)
            have hOthers := ih _ (by simp only [List.length_cons] at hShorter ⊢; omega) hBehind
              hMore (by omega) hRest hOrderly rfl
            exact hBody hOthers
  · -- The reading with bodies has a clause to step over.
    obtain ⟨hStep, hRest⟩ := hFull.skip hToken
    have hShorter := nextStatement_length_le 0 lexemes
    rw [body_skip_iff hToken, body_afterClause_iff] at derivation
    exact ih _ (by simp only [List.length_cons]; omega) (.skip_full hToken hSheltered hStep)
      derivation hNesting hRest hElided rfl
  · -- The reading without bodies has one.
    obtain ⟨hStep, hRest⟩ := hElided.skip hToken
    have hShorter := nextStatement_length_le 0 lexemes
    rw [body_skip_iff hToken, body_afterClause_iff]
    exact ih _ (by simp only [List.length_cons]; omega) (.skip_elided hToken hStep) derivation
      hNesting hFull hRest rfl

end Readings

end Grammar

open Grammar Reading

/-- A query that is read with its conditions and sort keys is read without them, too, and gives the
same statements but for these, if the clauses of both readings are orderly. -/
theorem ofText_letContext {maxDepth : Nat} {text : String} {query : Query}
    (hQuery : Query.ofText ⟨maxDepth, false⟩ text = .ok query)
    (hOrderly : ∀ letContext : Bool,
      Orderly maxDepth (Options.textScope ⟨maxDepth, letContext⟩ text) (lexemes text)) :
    Query.ofText ⟨maxDepth, true⟩ text = .ok ⟨query.body.map Statement.elided⟩ := by
  obtain ⟨derivation, hNesting⟩ := ofText_ok_iff.mp hQuery
  apply ofText_ok_iff.mpr
  refine ⟨?_, (bodyNesting_map_elided_le query.body).trans hNesting⟩
  show Derives (.body true (lexemes text) (query.body.map Statement.elided))
  cases hBound : Options.letBound ⟨maxDepth, false⟩ (lexemes text) with
  | true =>
      -- The text binds variables by itself, so that there are no bodies in either reading.
      rw [hBound] at derivation
      rwa [derivation.map_elided_group]
  | false =>
      rw [hBound] at derivation
      exact (InStep.together (lexemes text)).derives_elided derivation hNesting (hOrderly false)
        (hOrderly true) hBound rfl

/-- A group in a condition keeps its keyword, and a parenthesis without a partner behind it ends the
clause in one reading and starts one in the other. -/
theorem ofText_letContext_stray :
    Query.ofText ⟨3, false⟩ "FILTER f((SORT x)) ) y SORT k DESC LIMIT n" =
        .ok ⟨[.filter (.call "F" [.subquery [.omittedSort]]),
          .sort [.mk (.identifier "k") .desc],
          .limit (.number .zero) (.expression (.identifier "n"))]⟩ ∧
      Query.ofText ⟨3, true⟩ "FILTER f((SORT x)) ) y SORT k DESC LIMIT n" =
        .ok ⟨[.omittedFilter, .omittedSort,
          .limit (.number .zero) (.expression (.identifier "n"))]⟩ := by
  have hQuery : Query.ofText ⟨3, false⟩ "FILTER f((SORT x)) ) y SORT k DESC LIMIT n" =
      .ok ⟨[.filter (.call "F" [.subquery [.omittedSort]]), .sort [.mk (.identifier "k") .desc],
        .limit (.number .zero) (.expression (.identifier "n"))]⟩ := rfl
  refine ⟨hQuery, ofText_letContext hQuery ?_⟩
  intro letContext
  cases letContext
  · exact ⟨by decide +kernel, by decide +kernel⟩
  · exact ⟨by decide +kernel, by decide +kernel⟩

/-- A keyword that names a function in a condition ends the condition where it is omitted. So there
is one statement more. -/
theorem keyword_call_ends_omitted :
    ¬∀ (maxDepth : Nat) (text : String) (query : Query),
      Query.ofText ⟨maxDepth, false⟩ text = .ok query →
      Query.ofText ⟨maxDepth, true⟩ text = .ok ⟨query.body.map Statement.elided⟩ := by
  intro hSame
  have hFull : (Query.ofText ⟨64, false⟩ "FILTER LIMIT(5)").map (fun query => query.body.length) =
      .ok 1 := rfl
  have hElided : (Query.ofText ⟨64, true⟩ "FILTER LIMIT(5)").map
      (fun query => query.body.length) = .ok 2 := rfl
  cases hQuery : Query.ofText ⟨64, false⟩ "FILTER LIMIT(5)" with
  | error fault => simp [hQuery, Except.map] at hFull
  | ok query =>
      rw [hQuery] at hFull
      rw [hSame 64 _ query hQuery] at hElided
      have hOne : query.body.length = 1 := Except.ok.inj hFull
      have hTwo : (query.body.map Statement.elided).length = 2 := Except.ok.inj hElided
      rw [List.length_map] at hTwo
      omega

end QueryOutline
