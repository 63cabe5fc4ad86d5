import QueryOutline.Proofs.Grammar.Pairing
import QueryOutline.Proofs.Grammar.Sites

/-! Clauses are read one after the other. The loop over them has a bound that it never reaches, and
a sequence of clauses with another one behind it is read as the first and then as the second. -/

namespace QueryOutline.Grammar

open Reading

section Loop

variable {budget : Nat} {scope : Scope}

/-- What goes on in rounds, with fewer lexemes left behind each of them, is the same for any two
bounds that are not below the number of lexemes. -/
theorem eq_of_length_le {α : Type} (run : Nat → List Lexeme → α)
    (hEnd : ∀ first second, run first [] = run second [])
    (hRound : ∀ {first second : Nat} (lexeme : Lexeme) (lexemes : List Lexeme),
      (∀ rest : List Lexeme, rest.length ≤ lexemes.length → run first rest = run second rest) →
      run (first + 1) (lexeme :: lexemes) = run (second + 1) (lexeme :: lexemes))
    {first second : Nat} {lexemes : List Lexeme} (hFirst : lexemes.length ≤ first)
    (hSecond : lexemes.length ≤ second) : run first lexemes = run second lexemes := by
  induction first generalizing second lexemes with
  | zero =>
      obtain rfl : lexemes = [] := List.length_eq_zero_iff.mp (by omega)
      exact hEnd _ _
  | succ first ih =>
      cases lexemes with
      | nil => exact hEnd _ _
      | cons lexeme lexemes =>
          simp only [List.length_cons] at hFirst hSecond
          obtain ⟨second, rfl⟩ : ∃ n, second = n + 1 := Nat.exists_eq_add_one.mpr (by omega)
          exact hRound lexeme lexemes fun rest hShorter => ih (by omega) (by omega)

/-- Each clause takes a lexeme, so that two bounds that are not below the number of lexemes give the
same result, be it a fault or not. -/
theorem clauses_result_eq {first second : Nat} {lexemes : List Lexeme}
    (hFirst : lexemes.length ≤ first) (hSecond : lexemes.length ≤ second) :
    (clauses scope (expression budget scope) (operandWithin budget scope) first lexemes).result =
      (clauses scope (expression budget scope) (operandWithin budget scope) second
        lexemes).result := by
  refine eq_of_length_le (fun rounds lexemes => (clauses scope (expression budget scope)
    (operandWithin budget scope) rounds lexemes).result) ?_ ?_ hFirst hSecond
  · intro first second
    cases first <;> cases second <;> rfl
  · intro first second lexeme lexemes hMore
    simp only [clauses, Outcome.result_bind]
    cases hClause : (clause scope (expression budget scope) (operandWithin budget scope) lexeme
      lexemes).result with
    | error fault => rfl
    | ok found =>
        have hShorter := clause_length_le ((reads_within budget).1 scope)
          (operandWithin_reads budget scope) hClause
        simp only [Except.bind, hMore found.2 hShorter]

/-- The first clause of a body is read, and then the others. -/
theorem Derives.scopeBody_clause {lexemes rest : List Lexeme} {value : Option Statement}
    (derivation : Derives (.clause scope.omitsBodies lexemes value rest))
    (hNesting : bodyNesting value.toList ≤ budget) :
    (scopeBody budget scope lexemes).result =
      (scopeBody budget scope rest).result.map (value.toList ++ ·) := by
  obtain ⟨lexeme, more, rfl⟩ := derivation.clause_cons
  have hShorter := derivation.advances.2
  have hClause := (clause_ok_iff ((reads_within budget).1 scope)
    (operandWithin_reads budget scope)).mpr ⟨derivation, hNesting⟩
  have hOthers : (scopeBody budget scope rest).result =
      (clauses scope (Reading.expression budget scope) (operandWithin budget scope) more.length
        rest).result :=
    clauses_result_eq (Nat.le_refl _) (Nat.le_of_lt_succ hShorter)
  change (clauses scope _ (operandWithin budget scope) (more.length + 1)
    (lexeme :: more)).result = _
  rw [hOthers, clauses, Outcome.result_bind, hClause]
  simp only [Except.bind, Outcome.result_bind, Outcome.result_pure]
  cases (clauses scope _ (operandWithin budget scope) more.length rest).result <;> rfl

/-- Clauses with another clause behind them are read by themselves, and then what is behind them is
read by itself. -/
theorem Derives.scopeBody_append {front more : List Lexeme} {values : List Statement}
    (derivation : Derives (.body scope.omitsBodies front values))
    (hNesting : bodyNesting values ≤ budget) (hClosed : Closed front)
    (hMore : StartsClause more) :
    (scopeBody budget scope (front ++ more)).result =
      (scopeBody budget scope more).result.map (values ++ ·) := by
  generalize hJudgement : Judgement.body scope.omitsBodies front values = judgement at derivation
  induction derivation generalizing front values with
  | bodyEnd =>
      obtain ⟨-, rfl, rfl⟩ := Judgement.body.inj hJudgement
      cases hResult : (scopeBody budget scope more).result <;>
        simp [hResult, Except.map]
  | @bodyStep omits lexemes rest value others hClause hBody _ ih =>
      obtain ⟨rfl, rfl, rfl⟩ := Judgement.body.inj hJudgement
      rw [bodyNesting_append] at hNesting
      have hFirst := hClause.followedBy hMore hClosed
      rw [Derives.scopeBody_clause hFirst (by omega),
        ih (by omega) (hClosed.of_suffix hClause.advances.1) rfl]
      cases (scopeBody budget scope more).result <;> simp [Except.map]
  | _ => cases hJudgement

end Loop

end QueryOutline.Grammar
