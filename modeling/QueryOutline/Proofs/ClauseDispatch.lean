import QueryOutline.Proofs.Grammar.Extent
import QueryOutline.Proofs.Grammar.Steps

/-! Which keywords of a body become its statements. None is lost: a keyword outside of all
parentheses that does not name a function is where a statement starts. But a keyword within
parentheses may be the start of a statement, too, because a parenthesis at the start of a clause is
stepped over like any other lexeme, and nothing looks for the parenthesis of a call further on than
directly behind the last argument. This happens exactly if a clause leaves a parenthesis open that
has such a keyword directly in it. -/

namespace QueryOutline.Grammar

open Reading

section Kept

/-- Where the keywords of statements stand outside of all parentheses, without an opening
parenthesis directly behind them, if `nesting` parentheses are open in front of the lexemes. -/
def outerClauses (nesting : Nat) (lexemes : List Lexeme) : List (List Lexeme) :=
  (outerKeywords nesting lexemes).filter fun place =>
    (eat? (.mark .openParen) place.tail).isNone

variable {nesting : Nat} {lexeme : Lexeme} {lexemes part rest : List Lexeme}

/-- A keyword outside of parentheses is listed unless a parenthesis makes it the name of a
function. -/
theorem outerClauses_cons_of_opens (hCall : (eat? (.mark .openParen) lexemes).isNone)
    (hToken : opensStatement lexeme.token = true) :
    outerClauses 0 (lexeme :: lexemes) =
      (lexeme :: lexemes) :: outerClauses (nestingBehind 0 lexeme) lexemes := by
  simp [outerClauses, outerKeywords, hToken, hCall]

/-- A lexeme that does not start a statement, or only names a function, is none of the places. -/
theorem outerClauses_cons_of_call
    (hCall : opensStatement lexeme.token = true → nesting = 0 →
      (eat? (.mark .openParen) lexemes).isSome) :
    outerClauses nesting (lexeme :: lexemes) =
      outerClauses (nestingBehind nesting lexeme) lexemes := by
  by_cases hOuter : nesting = 0 ∧ opensStatement lexeme.token = true
  · have hSome := hCall hOuter.2 hOuter.1
    simp [outerClauses, outerKeywords, hOuter, Option.isNone_iff_eq_none,
      Option.isSome_iff_ne_none.mp hSome]
  · simp [outerClauses, outerKeywords, hOuter]

/-- Nothing is lost in a part in which the outer keywords name functions. -/
theorem OnlyCalls.outerClauses_append (hPart : OnlyCalls nesting part) (rest : List Lexeme) :
    outerClauses nesting (part ++ rest) = outerClauses (openParens nesting part) rest := by
  induction part generalizing nesting with
  | nil => rfl
  | cons lexeme part ih =>
      obtain ⟨hCall, hPart⟩ := hPart
      have hNoPlace : opensStatement lexeme.token = true → nesting = 0 →
          (eat? (.mark .openParen) (part ++ rest)).isSome := by
        intro hToken hZero
        obtain ⟨inside, hEaten⟩ := hCall hToken hZero
        rw [eat?_append_of_eq_some hEaten rest]
        rfl
      rw [List.cons_append, outerClauses_cons_of_call hNoPlace, ih hPart, openParens_cons]

/-- One clause is the place of at most one statement, the one that it gives. -/
theorem Derives.outerClauses_clause {omits : Bool} {value : Option Statement}
    (derivation : Derives (.clause omits lexemes value rest)) (nesting : Nat) :
    ∃ behind, (outerClauses nesting lexemes).Sublist
      (value.toList.map (fun _ => lexemes) ++ outerClauses behind rest) := by
  obtain ⟨lexeme, taken, rfl, hTaken⟩ := derivation.clause_onlyCalls
  refine ⟨openParens (nestingBehind nesting lexeme) taken, ?_⟩
  rw [← (hTaken.mono (Nat.zero_le _)).outerClauses_append rest]
  by_cases hPlace : opensStatement lexeme.token = true ∧ nesting = 0 ∧
      (eat? (.mark .openParen) (taken ++ rest)).isNone
  · obtain ⟨hToken, rfl, hCall⟩ := hPlace
    obtain ⟨statement, rfl⟩ := derivation.clause_gives hToken
    rw [outerClauses_cons_of_opens hCall hToken]
    exact List.Sublist.refl _
  · rw [outerClauses_cons_of_call]
    · exact List.sublist_append_right _ _
    · intro hToken hZero
      by_contra hNone
      exact hPlace ⟨hToken, hZero, by simpa using hNone⟩

/-- A statement is dispatched on its own keyword. -/
theorem dispatches_keyword {budget : Nat} {scope : Scope} {body : List Statement}
    (hRead : (scopeBody budget scope lexemes).result = .ok body) :
    ∀ dispatch ∈ dispatches budget scope lexemes,
      dispatch.1.head?.map Lexeme.token = some (.keyword dispatch.2.keyword) := by
  obtain ⟨derivation, hNesting⟩ := scopeBody_ok_iff.mp hRead
  clear hRead
  induction derivation using Derives.body_induction with
  | nil => exact fun _ hMember => nomatch hMember
  | @step lexemes rest value values hClause _ ih =>
      rw [bodyNesting_append] at hNesting
      rw [hClause.dispatches_eq (by omega)]
      intro dispatch hMember
      rcases List.mem_append.mp hMember with hFirst | hMore
      · obtain ⟨statement, hValue, rfl⟩ := List.mem_map.mp hFirst
        obtain rfl := Option.mem_toList.mp hValue
        obtain ⟨lexeme, more, rfl, hToken⟩ := hClause.clause_keyword
        exact congrArg some hToken
      · exact ih (by omega) dispatch hMore

end Kept

/-- No clause is lost. In whatever scope the lexemes are read, at the top or in a group, its
statements are those that are dispatched, each of them on its own keyword. The keywords outside of
all parentheses that have no opening parenthesis directly behind them are among the places, in
order. So they are among the keywords of the statements. -/
theorem outer_clauses_kept {budget : Nat} {scope : Scope} {lexemes : List Lexeme}
    {body : List Statement} (hRead : (scopeBody budget scope lexemes).result = .ok body) :
    (dispatches budget scope lexemes).map Prod.snd = body ∧
    (∀ dispatch ∈ dispatches budget scope lexemes,
      dispatch.1.head?.map Lexeme.token = some (.keyword dispatch.2.keyword)) ∧
    (outerClauses 0 lexemes).Sublist ((dispatches budget scope lexemes).map Prod.fst) ∧
    ((outerClauses 0 lexemes).map fun place => place.head?.map Lexeme.token).Sublist
      (body.map fun statement => some (.keyword statement.keyword)) := by
  have hStatements := dispatches_statements hRead
  have hKeywords := dispatches_keyword hRead
  have hPlaces : ∀ nesting, (outerClauses nesting lexemes).Sublist
      ((dispatches budget scope lexemes).map Prod.fst) := by
    obtain ⟨derivation, hNesting⟩ := scopeBody_ok_iff.mp hRead
    clear hRead hStatements hKeywords
    -- The parentheses that are open where a clause starts are those that the clauses before it have
    -- left open, so that the number of them is arbitrary in the induction.
    induction derivation using Derives.body_induction with
    | nil => exact fun _ => List.Sublist.refl _
    | @step lexemes rest value values hClause _ ih =>
        intro nesting
        rw [bodyNesting_append] at hNesting
        obtain ⟨behind, hFirst⟩ := hClause.outerClauses_clause nesting
        rw [hClause.dispatches_eq (by omega), List.map_append, List.map_map]
        exact hFirst.trans ((List.Sublist.refl _).append (ih (by omega) behind))
  refine ⟨hStatements, hKeywords, hPlaces 0, ?_⟩
  have hTokens : (dispatches budget scope lexemes).map
        ((fun place : List Lexeme => place.head?.map Lexeme.token) ∘ Prod.fst) =
      (dispatches budget scope lexemes).map
        ((fun statement : Statement => some (.keyword statement.keyword)) ∘ Prod.snd) :=
    List.map_congr_left hKeywords
  rw [← hStatements, List.map_map, ← hTokens, ← List.map_map]
  exact (hPlaces 0).map _

/-- Where bodies are omitted, a keyword that is meant to name a function starts a statement as well,
between the two that must be there. The keyword in parentheses starts none. -/
theorem outer_clauses_kept_call :
    ((outerClauses 0 (lexemes "FILTER LIMIT(n) RETURN (SORT x) LIMIT m")).map fun place =>
        place.head?.map Lexeme.token) = [some (.keyword .filter), some (.keyword .limit)] ∧
    [some (Token.keyword .filter), some (.keyword .limit)].Sublist
      [some (.keyword .filter), some (.keyword .limit), some (.keyword .limit)] := by
  have hRead : (scopeBody 3 ⟨5, true, false, 39⟩
        (lexemes "FILTER LIMIT(n) RETURN (SORT x) LIMIT m")).result =
      .ok [.omittedFilter, .limit (.number .zero) (.expression (.subquery [])),
        .limit (.number .zero) (.expression (.identifier "m"))] := rfl
  have hOuter : ((outerClauses 0 (lexemes "FILTER LIMIT(n) RETURN (SORT x) LIMIT m")).map
      fun place => place.head?.map Lexeme.token) =
        [some (.keyword .filter), some (.keyword .limit)] := by
    decide +kernel
  have hKept := (outer_clauses_kept hRead).2.2.2
  rw [hOuter] at hKept
  exact ⟨hOuter, hKept⟩

section Outside

variable {nesting : Nat} {lexemes taken rest : List Lexeme}

/-- If neither the parentheses that are open in front of a clause nor those that it opens have the
keyword of a statement directly in them, none of those that are open behind it does. -/
theorem Sheltered.behind_clause {value : Option Statement}
    (hBefore : Sheltered 0 nesting (taken ++ rest))
    (hClause : (ClauseStep.mk (taken ++ rest) value rest).Sheltered) :
    Sheltered 0 (openParens nesting taken) rest := by
  rw [ClauseStep.Sheltered, ClauseStep.taken_append] at hClause
  exact hClause.trans hBefore.of_append

theorem outerKeywords_cons_of_opens {lexeme : Lexeme}
    (hToken : opensStatement lexeme.token = true) :
    outerKeywords 0 (lexeme :: lexemes) = (lexeme :: lexemes) :: outerKeywords 0 lexemes := by
  simp [outerKeywords, hToken, nestingBehind_of_opensStatement hToken]

/-- If no clause leaves a parenthesis open that has the keyword of a statement directly in it, the
statements of a body start outside of all parentheses. -/
theorem dispatches_sublist_outerKeywords {budget : Nat} {scope : Scope} {body : List Statement}
    (hRead : (scopeBody budget scope lexemes).result = .ok body)
    (hSheltered : ∀ step ∈ clauseSteps budget scope lexemes, step.Sheltered) :
    ((dispatches budget scope lexemes).map Prod.fst).Sublist (outerKeywords 0 lexemes) := by
  suffices hAll : ∀ nesting, Sheltered 0 nesting lexemes →
      ((dispatches budget scope lexemes).map Prod.fst).Sublist (outerKeywords nesting lexemes) from
    hAll 0 (Sheltered.refl 0 lexemes)
  obtain ⟨derivation, hNesting⟩ := scopeBody_ok_iff.mp hRead
  clear hRead
  induction derivation using Derives.body_induction with
  | nil => exact fun _ _ => List.Sublist.refl _
  | @step lexemes rest value values hClause _ ih =>
      intro nesting hBefore
      rw [bodyNesting_append] at hNesting
      rw [hClause.clauseSteps_eq (by omega)] at hSheltered
      obtain ⟨hFirst, hMore⟩ := List.forall_mem_cons.mp hSheltered
      obtain ⟨lexeme, taken, rfl, -⟩ := hClause.clause_onlyCalls
      have hBehind : Sheltered 0 (openParens nesting (lexeme :: taken)) rest :=
        hBefore.behind_clause hFirst
      have hRest : ((dispatches budget scope rest).map Prod.fst).Sublist
          (outerKeywords (nestingBehind nesting lexeme) (taken ++ rest)) :=
        (ih hMore (by omega) _ hBehind).trans (outerKeywords_sublist_append _ taken rest)
      rw [hClause.dispatches_eq (by omega), List.map_append, List.map_map]
      cases value with
      | none => exact hRest.trans (List.sublist_append_right _ _)
      | some statement =>
          have hOpens := hClause.clause_opens
          -- A statement starts here, so that no parenthesis is open.
          obtain rfl := hBefore.eq_zero hOpens
          rw [nestingBehind_of_opensStatement hOpens] at hRest
          rw [outerKeywords_cons_of_opens hOpens]
          exact hRest.cons_cons _

/-- The places are ends of the lexemes. Their lengths tell their order. -/
theorem length_le_of_mem_outerKeywords {place : List Lexeme}
    (hPlace : place ∈ outerKeywords nesting lexemes) : place.length ≤ lexemes.length := by
  induction lexemes generalizing nesting with
  | nil => cases hPlace
  | cons lexeme lexemes ih =>
      rcases mem_outerKeywords_cons.mp hPlace with ⟨rfl, -⟩ | hLater
      · exact Nat.le_refl _
      · exact Nat.le_succ_of_le (ih hLater)

/-- The lexemes themselves are an outer place only if no parenthesis is open in front of them. -/
theorem eq_zero_of_mem_outerKeywords {lexeme : Lexeme}
    (hPlace : lexeme :: lexemes ∈ outerKeywords nesting (lexeme :: lexemes)) : nesting = 0 := by
  rcases mem_outerKeywords_cons.mp hPlace with ⟨-, hZero, -⟩ | hLater
  · exact hZero
  · exact absurd (length_le_of_mem_outerKeywords hLater) (Nat.not_succ_le_self _)

/-- An outer place that is further on is one without the lexemes before it. -/
theorem mem_outerKeywords_of_append {place : List Lexeme}
    (hPlace : place ∈ outerKeywords nesting (taken ++ rest))
    (hLength : place.length ≤ rest.length) :
    place ∈ outerKeywords (openParens nesting taken) rest := by
  induction taken generalizing nesting with
  | nil => exact hPlace
  | cons lexeme taken ih =>
      rw [List.cons_append] at hPlace
      rcases mem_outerKeywords_cons.mp hPlace with ⟨rfl, -⟩ | hLater
      · simp only [List.length_cons, List.length_append] at hLength
        omega
      · exact ih hLater

/-- With fewer parentheses open in front there are more outer places. -/
theorem outerKeywords_subset {inner outer : Nat} (hLe : inner ≤ outer) (lexemes : List Lexeme) :
    outerKeywords outer lexemes ⊆ outerKeywords inner lexemes := by
  induction lexemes generalizing inner outer with
  | nil => exact List.Subset.refl _
  | cons lexeme lexemes ih =>
      intro place hPlace
      rcases mem_outerKeywords_cons.mp hPlace with ⟨hSelf, hZero, hToken⟩ | hLater
      · exact mem_outerKeywords_cons.mpr (.inl ⟨hSelf, by omega, hToken⟩)
      · exact mem_outerKeywords_cons.mpr (.inr (ih (nestingBehind_mono hLe lexeme) hLater))

/-- What is dispatched is among the lexemes. -/
theorem dispatches_length_le {budget : Nat} {scope : Scope} {body : List Statement}
    (derivation : Derives (.body scope.omitsBodies lexemes body))
    (hNesting : bodyNesting body ≤ budget) :
    ∀ place ∈ (dispatches budget scope lexemes).map Prod.fst, place.length ≤ lexemes.length := by
  induction derivation using Derives.body_induction with
  | nil => exact fun _ hPlace => nomatch hPlace
  | @step lexemes rest value values hClause _ ih =>
      rw [bodyNesting_append] at hNesting
      rw [hClause.dispatches_eq (by omega), List.map_append]
      intro place hPlace
      rcases List.mem_append.mp hPlace with hFirst | hLater
      · obtain ⟨_, hDispatch, rfl⟩ := List.mem_map.mp hFirst
        obtain ⟨_, -, rfl⟩ := List.mem_map.mp hDispatch
        exact Nat.le_refl _
      · exact (ih (by omega) place hLater).trans hClause.advances.1.length_le

/-- If the statements of a body start outside of all parentheses, no clause leaves a parenthesis
open that has the keyword of a statement directly in it. -/
theorem Derives.sheltered_of_outer {budget : Nat} {scope : Scope} {body : List Statement}
    (derivation : Derives (.body scope.omitsBodies lexemes body))
    (hNesting : bodyNesting body ≤ budget)
    (hOuter : (dispatches budget scope lexemes).map Prod.fst ⊆ outerKeywords nesting lexemes) :
    Sheltered 0 nesting lexemes ∧ ∀ step ∈ clauseSteps budget scope lexemes, step.Sheltered := by
  induction derivation using Derives.body_induction generalizing nesting with
  | nil => exact ⟨fun index => index.elim0, fun _ hStep => nomatch hStep⟩
  | @step lexemes rest value values hClause hBody ih =>
      rw [bodyNesting_append] at hNesting
      rw [hClause.dispatches_eq (by omega), List.map_append, List.map_map] at hOuter
      rw [hClause.clauseSteps_eq (by omega)]
      obtain ⟨hFirst, hLater⟩ := List.append_subset.mp hOuter
      -- The induction hypothesis is used with the parentheses that are really open behind the
      -- clause, and with those that the clause itself leaves open, which are fewer.
      have hRest : ∀ {taken : List Lexeme} {before : Nat}, lexemes = taken ++ rest →
          before ≤ nesting → (dispatches budget scope rest).map Prod.fst ⊆
            outerKeywords (openParens before taken) rest := by
        rintro taken before rfl hLe place hPlace
        exact outerKeywords_subset (openParens_mono hLe taken) rest (mem_outerKeywords_of_append
          (hLater hPlace) (dispatches_length_le hBody (by omega) place hPlace))
      obtain ⟨taken, hTaken⟩ := hClause.advances.1
      obtain ⟨hBehind, hSteps⟩ := ih (by omega) (hRest hTaken.symm (Nat.zero_le _))
      have hStep : (ClauseStep.mk lexemes value rest).Sheltered := by
        rwa [← hTaken, ClauseStep.Sheltered, ClauseStep.taken_append]
      refine ⟨?_, List.forall_mem_cons.mpr ⟨hStep, hSteps⟩⟩
      cases value with
      | none =>
          obtain ⟨skipped, hLexemes, hEnclosed⟩ := hClause.clause_enclosed
          have hOpen := (ih (by omega) (hRest hLexemes (Nat.le_refl _))).1
          rw [hLexemes]
          exact Sheltered.append hEnclosed (hOpen.mono (Nat.zero_le _))
      | some statement =>
          -- The keyword of the statement is the first place, so that no parenthesis is open.
          obtain ⟨lexeme, more, rfl⟩ := hClause.clause_cons
          obtain rfl := eq_zero_of_mem_outerKeywords (hFirst (List.mem_singleton.mpr rfl))
          exact Sheltered.refl 0 _

end Outside

/-- The statements of a query start outside of all parentheses exactly if no clause leaves a
parenthesis open that has the keyword of a statement directly in it. Then there are at most as many
of them as there are keywords of statements outside of all parentheses. -/
theorem body_outside_parens {options : Options} {text : String} {query : Query}
    (hRead : Query.ofText options text = .ok query) :
    ((∀ step ∈ clauseSteps options.maxDepth (options.textScope text) (lexemes text),
        step.Sheltered) ↔
      ((dispatches options.maxDepth (options.textScope text) (lexemes text)).map
        Prod.fst).Sublist (outerKeywords 0 (lexemes text))) ∧
    ((∀ step ∈ clauseSteps options.maxDepth (options.textScope text) (lexemes text),
        step.Sheltered) →
      query.body.length ≤ (outerKeywords 0 (lexemes text)).length) := by
  have hBody : (scopeBody options.maxDepth (options.textScope text) (lexemes text)).result =
      .ok query.body := scopeBody_ok_iff.mpr (ofText_ok_iff.mp hRead)
  refine ⟨⟨dispatches_sublist_outerKeywords hBody, ?_⟩, ?_⟩
  · intro hPlaces
    obtain ⟨derivation, hNesting⟩ := scopeBody_ok_iff.mp hBody
    exact (derivation.sheltered_of_outer hNesting hPlaces.subset).2
  · intro hSheltered
    have hPlaces := dispatches_sublist_outerKeywords hBody hSheltered
    rw [← dispatches_statements hBody, List.length_map]
    simpa using hPlaces.length_le

/-- The clauses in the groups of a limit and of a call, and in what is stepped over, are no
statements of the query. -/
theorem body_outside_parens_groups :
    (outerKeywords 0 (lexemes "LIMIT (SORT x) RETURN (FILTER y) SORT f((LIMIT n))")).length = 2 ∧
    ∃ query, Query.ofText {} "LIMIT (SORT x) RETURN (FILTER y) SORT f((LIMIT n))" = .ok query ∧
      query.body.length ≤ 2 := by
  have hCount : (outerKeywords 0
      (lexemes "LIMIT (SORT x) RETURN (FILTER y) SORT f((LIMIT n))")).length = 2 := by
    decide +kernel
  have hRead : Query.ofText {} "LIMIT (SORT x) RETURN (FILTER y) SORT f((LIMIT n))" =
      .ok ⟨[.limit (.number .zero) (.expression (.subquery [.omittedSort])),
        .sort [.mk (.call "F" [.subquery [.limit (.number .zero)
          (.expression (.identifier "n"))]]) .asc]]⟩ := rfl
  refine ⟨hCount, _, hRead, ?_⟩
  rw [← hCount]
  exact (body_outside_parens hRead).2 (by decide +kernel)

/-- A parenthesis at the start of a clause is stepped over without being counted. The keyword behind
it starts a statement, although the parentheses are in pairs and no keyword is outside of them. -/
theorem leading_paren_leaks :
    ¬∀ (options : Options) (text : String) (query : Query), Paired (lexemes text) →
      Query.ofText options text = .ok query →
      query.body.length ≤ (outerKeywords 0 (lexemes text)).length := by
  intro hOutside
  have hPaired : Paired (lexemes "(LIMIT 5)") := by decide +kernel
  have hLength : (Query.ofText {} "(LIMIT 5)").map (fun query => query.body.length) = .ok 1 := rfl
  have hNone : (outerKeywords 0 (lexemes "(LIMIT 5)")).length = 0 := by decide +kernel
  cases hRead : Query.ofText {} "(LIMIT 5)" with
  | error fault => simp [hRead, Except.map] at hLength
  | ok query =>
      have hLe := hOutside {} _ query hPaired hRead
      rw [hRead] at hLength
      have hOne : query.body.length = 1 := Except.ok.inj hLength
      omega

end QueryOutline.Grammar
