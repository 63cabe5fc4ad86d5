import QueryOutline.Proofs.Grammar.Extent
import QueryOutline.Proofs.Grammar.Steps

/-! The way to the next statement over clauses that are stepped over. It counts the parentheses on
the way, and a parenthesis more makes no difference as long as no statement starts directly in
it. -/

namespace QueryOutline.Grammar

open Reading

section NextStatement

/-- The lexemes from the next statement on, within `nesting` open parentheses. Other than
`afterClause`, this goes on at a keyword that starts a clause without a statement. Behind a closing
parenthesis that has no partner it ends as well, because the lexeme there starts a clause, be it a
parenthesis. -/
def nextStatement : (nesting : Nat) → List Lexeme → List Lexeme
  | _, [] => []
  | nesting, lexeme :: rest =>
      if nesting = 0 ∧ opensStatement lexeme.token then lexeme :: rest
      else if nesting = 0 ∧ lexeme.token = .mark .closeParen then rest
      else nextStatement (nestingBehind nesting lexeme) rest

variable {nesting : Nat} {lexeme : Lexeme} {lexemes rest : List Lexeme}

/-- Where a statement starts outside of parentheses, the way is at its end. -/
theorem nextStatement_opens (hToken : opensStatement lexeme.token = true)
    (lexemes : List Lexeme) : nextStatement 0 (lexeme :: lexemes) = lexeme :: lexemes := by
  simp [nextStatement, hToken]

/-- A closing parenthesis without a partner ends the clause that is stepped over, and with it the
way. -/
theorem nextStatement_close (hToken : lexeme.token = .mark .closeParen) (lexemes : List Lexeme) :
    nextStatement 0 (lexeme :: lexemes) = lexemes := by
  simp [nextStatement, hToken, opensStatement]

/-- Everything else is stepped over, and the parentheses are counted. -/
theorem nextStatement_inside (hOpens : opensStatement lexeme.token = true → nesting ≠ 0)
    (hClose : lexeme.token = .mark .closeParen → nesting ≠ 0) (lexemes : List Lexeme) :
    nextStatement nesting (lexeme :: lexemes) =
      nextStatement (nestingBehind nesting lexeme) lexemes := by
  rw [nextStatement, if_neg fun hBoth => hOpens hBoth.2 hBoth.1,
    if_neg fun hBoth => hClose hBoth.2 hBoth.1]

theorem nextStatement_length_le (nesting : Nat) (lexemes : List Lexeme) :
    (nextStatement nesting lexemes).length ≤ lexemes.length := by
  fun_induction nextStatement nesting lexemes with
  | case1 | case2 => exact Nat.le_refl _
  | case3 => exact Nat.le_succ _
  | case4 _ _ _ _ _ ih => exact Nat.le_succ_of_le ih

/-- A part that takes no keyword of a statement outside of parentheses, and closes none that it has
not opened, is passed over. -/
theorem nextStatement_append {part : List Lexeme} (hContained : SelfContained nesting part)
    (hEnclosed : Enclosed nesting part) (rest : List Lexeme) :
    nextStatement nesting (part ++ rest) = nextStatement (openParens nesting part) rest := by
  induction part generalizing nesting with
  | nil => rfl
  | cons lexeme part ih =>
      obtain ⟨hOpens, hEnclosed⟩ := enclosed_cons_iff.mp hEnclosed
      rw [List.cons_append, nextStatement_inside hOpens hContained.1,
        ih hContained.2.2 hEnclosed, openParens_cons]

/-- If no statement starts directly in the outer parentheses, the way to the next statement behind
them leads over the end of the inner ones. -/
theorem nextStatement_nested {inner more : Nat}
    (hSheltered : Sheltered inner (inner + more + 1) lexemes) :
    nextStatement (inner + more + 1) lexemes = nextStatement more (nextStatement inner lexemes) ∧
      Sheltered 0 more (nextStatement inner lexemes) := by
  induction lexemes generalizing inner with
  | nil => exact ⟨rfl, fun index => index.elim0⟩
  | cons lexeme lexemes ih =>
      obtain ⟨hFirst, hRest⟩ := sheltered_cons_iff.mp hSheltered
      have hOpens : opensStatement lexeme.token = true → inner ≠ 0 := by
        intro hToken hZero
        exact absurd (hFirst hToken hZero) (Nat.succ_ne_zero _)
      rw [nextStatement_inside (fun _ => Nat.succ_ne_zero _) (fun _ => Nat.succ_ne_zero _)]
      by_cases hClose : lexeme.token = .mark .closeParen ∧ inner = 0
      · obtain ⟨hToken, rfl⟩ := hClose
        rw [nextStatement_close hToken, nestingBehind_close hToken]
        rw [nestingBehind_close hToken, nestingBehind_close hToken] at hRest
        simp only [Nat.zero_add, Nat.add_sub_cancel] at hRest ⊢
        exact ⟨rfl, hRest⟩
      · have hInner : lexeme.token = .mark .closeParen → inner ≠ 0 :=
          fun hToken hZero => hClose ⟨hToken, hZero⟩
        have hBehind : nestingBehind (inner + more + 1) lexeme =
            nestingBehind inner lexeme + more + 1 := by
          unfold nestingBehind
          split
          · omega
          · have hPositive := hInner ‹_›
            omega
          · rfl
        rw [hBehind] at hRest
        rw [nextStatement_inside hOpens hInner, hBehind]
        exact ih hRest

end NextStatement

section Skipping

variable {omits : Bool} {budget nesting : Nat} {scope : Scope} {lexeme : Lexeme}
  {lexemes : List Lexeme} {values : List Statement}

/-- From the end of a clause the next statement is reached by stepping over clauses. So what holds
there, and in front of every clause that is stepped over if it holds behind it, holds at the end of
the clause. -/
theorem afterClause_of_nextStatement {motive : List Lexeme → Prop}
    (hSkip : ∀ {lexeme lexemes}, opensStatement lexeme.token = false →
      motive (afterClause 0 lexemes) → motive (lexeme :: lexemes))
    (hNext : motive (nextStatement nesting lexemes)) : motive (afterClause nesting lexemes) := by
  induction lexemes generalizing nesting with
  | nil => exact hNext
  | cons lexeme lexemes ih =>
      by_cases hOpens : opensStatement lexeme.token = true ∧ nesting = 0
      · obtain ⟨hToken, rfl⟩ := hOpens
        rw [nextStatement_opens hToken] at hNext
        rwa [afterClause_cons, if_pos ⟨rfl, startsClause_of_opensStatement hToken⟩]
      by_cases hClose : lexeme.token = .mark .closeParen ∧ nesting = 0
      · obtain ⟨hToken, rfl⟩ := hClose
        rw [nextStatement_close hToken] at hNext
        rwa [afterClause_cons, if_neg (by simp [hToken, startsClause]), if_pos ⟨rfl, hToken⟩]
      rw [nextStatement_inside (fun hToken hZero => hOpens ⟨hToken, hZero⟩)
        fun hToken hZero => hClose ⟨hToken, hZero⟩] at hNext
      rw [afterClause_cons]
      split
      · -- A clause of no known kind starts here, and it is stepped over as well.
        rename_i hStops
        obtain ⟨rfl, hStarts⟩ := hStops
        have hPlain : nestingBehind 0 lexeme = 0 := by
          apply nestingBehind_plain <;> intro hParen <;> simp [hParen, startsClause] at hStarts
        rw [hPlain] at hNext
        exact hSkip (Bool.eq_false_iff.mpr fun hToken => hOpens ⟨hToken, rfl⟩) (ih hNext)
      · rw [if_neg fun hBoth => hClose hBoth.symm]
        exact ih hNext

/-- A clause that gives no statement can be left out in front of a body. -/
theorem body_skip_iff (hToken : opensStatement lexeme.token = false) :
    Derives (.body omits (lexeme :: lexemes) values) ↔
      Derives (.body omits (afterClause 0 lexemes) values) := by
  constructor
  · intro derivation
    cases derivation with
    | @bodyStep _ _ rest value values hClause hBody =>
        cases value with
        | none =>
            cases hClause with
            | skipped _ => exact hBody
        | some statement =>
            rw [hClause.clause_opens] at hToken
            cases hToken
  · intro derivation
    exact .bodyStep (.skipped hToken) derivation

/-- The clauses that are stepped over up to the next statement add nothing to a body. -/
theorem body_afterClause_iff :
    Derives (.body omits (afterClause nesting lexemes) values) ↔
      Derives (.body omits (nextStatement nesting lexemes) values) := by
  apply afterClause_of_nextStatement (motive := fun place =>
    Derives (.body omits place values) ↔
      Derives (.body omits (nextStatement nesting lexemes) values))
  · intro _ _ hToken hBehind
    exact (body_skip_iff hToken).trans hBehind
  · exact Iff.rfl

theorem clauseSteps_skip (hToken : opensStatement lexeme.token = false) (lexemes : List Lexeme) :
    clauseSteps budget scope (lexeme :: lexemes) =
      ⟨lexeme :: lexemes, none, afterClause 0 lexemes⟩ ::
        clauseSteps budget scope (afterClause 0 lexemes) :=
  (Derives.skipped hToken).clauseSteps_eq (Nat.zero_le _)

/-- Between the end of a clause and the next statement lie only clauses that are stepped over. -/
theorem clauseSteps_nextStatement_suffix (nesting : Nat) (lexemes : List Lexeme) :
    clauseSteps budget scope (nextStatement nesting lexemes) <:+
      clauseSteps budget scope (afterClause nesting lexemes) := by
  apply afterClause_of_nextStatement (motive := fun place =>
    clauseSteps budget scope (nextStatement nesting lexemes) <:+ clauseSteps budget scope place)
  · intro _ _ hToken hBehind
    rw [clauseSteps_skip hToken]
    exact hBehind.trans (List.suffix_cons _ _)
  · exact List.suffix_refl _

/-- A parenthesis that is stepped over at the start of a clause has no keyword of a statement
directly in it, if the clause leaves no such parenthesis open. -/
theorem Sheltered.of_skipped
    (hStep : (ClauseStep.mk (lexeme :: lexemes) none (afterClause 0 lexemes)).Sheltered) :
    Sheltered 0 (nestingBehind 0 lexeme) lexemes := by
  obtain ⟨taken, hLexemes, hTaken⟩ := enclosed_afterClause 0 lexemes
  rw [hLexemes]
  apply Sheltered.append hTaken
  apply Sheltered.mono (Nat.zero_le _)
  have hAll : lexeme :: lexemes = (lexeme :: taken) ++ afterClause 0 lexemes :=
    congrArg (lexeme :: ·) hLexemes
  rwa [ClauseStep.Sheltered, hAll, ClauseStep.taken_append] at hStep

end Skipping

end QueryOutline.Grammar
