import QueryOutline.Proofs.Grammar.Statements

/-! A reading with a smaller budget goes the same way as one with a greater budget, or it ends
because its budget is used up. Nothing else depends on the budget. -/

namespace QueryOutline.Depth

open Reading Grammar

section Outcomes

variable {α β : Type} {limit : Nat}

/-- The first outcome has the result of the second, unless its nesting was found too deep. -/
def Approximates (limit : Nat) (shallow deep : Outcome α) : Prop :=
  shallow.result = deep.result ∨ shallow.result = .error (.nestingTooDeep limit)

/-- Events are left out: a reading that ends too early has logged fewer of them. -/
theorem Approximates.of_result_eq {shallow deep : Outcome α}
    (hResult : shallow.result = deep.result) : Approximates limit shallow deep :=
  .inl hResult

theorem Approximates.refl (outcome : Outcome α) : Approximates limit outcome outcome :=
  .inl rfl

/-- If both steps approximate, so does one after the other. -/
theorem Approximates.bind {shallow deep : Outcome α} {next further : α → Outcome β}
    (hFirst : Approximates limit shallow deep)
    (hNext : ∀ value, Approximates limit (next value) (further value)) :
    Approximates limit (shallow >>= next) (deep >>= further) := by
  unfold Approximates
  rw [Outcome.result_bind, Outcome.result_bind]
  rcases hFirst with hSame | hTooDeep
  · rw [hSame]
    cases deep.result with
    | error fault => exact .inl rfl
    | ok value => exact hNext value
  · rw [hTooDeep]
    exact .inr rfl

def ReaderApproximates (limit : Nat) (shallow deep : Reader α) : Prop :=
  ∀ lexemes, Approximates limit (shallow lexemes) (deep lexemes)

end Outcomes

/-- Readers of groups that approximate each other in scopes that differ in the limit only. -/
def GroupsApproximate (limit greater : Nat)
    (shallow deep : Scope → List Lexeme → Outcome (List Statement)) : Prop :=
  ∀ scope lexemes, scope.limit = limit →
    Approximates limit (shallow scope lexemes) (deep { scope with limit := greater } lexemes)

section Expressions

variable {α : Type} {limit greater : Nat} {shallow deep : Reader Expr}

/-- The loops have the same number of rounds, which does not depend on the budget. -/
theorem separated_approximates {shallow deep : Reader α}
    (hItem : ReaderApproximates limit shallow deep) (rounds : Nat) :
    ReaderApproximates limit (separated shallow rounds) (separated deep rounds) := by
  induction rounds with
  | zero =>
      intro lexemes
      exact (hItem lexemes).bind fun _ => .refl _
  | succ rounds ih =>
      intro lexemes
      apply (hItem lexemes).bind
      rintro ⟨first, rest⟩
      simp only
      split
      · exact .refl _
      · exact (ih _).bind fun _ => .refl _

theorem commaSeparated_approximates {shallow deep : Reader α}
    (hItem : ReaderApproximates limit shallow deep) :
    ReaderApproximates limit (commaSeparated shallow) (commaSeparated deep) :=
  fun lexemes => separated_approximates hItem lexemes.length lexemes

theorem call_approximates (hArgument : ReaderApproximates limit shallow deep) (name : String) :
    ReaderApproximates limit (call shallow name) (call deep name) := by
  intro lexemes
  unfold call callArguments
  split
  · exact .refl _
  · exact ((commaSeparated_approximates hArgument lexemes).bind fun _ => .refl _).bind
      fun _ => .refl _

/-- The scope of a group has the limit of the scope around it, so that the greater limit goes down
with the greater budget. -/
theorem subquery_approximates {scope : Scope}
    {shallow deep : Scope → List Lexeme → Outcome (List Statement)} (hScope : scope.limit = limit)
    (hGroups : GroupsApproximate limit greater shallow deep) :
    ReaderApproximates limit (subquery scope shallow)
      (subquery { scope with limit := greater } deep) := by
  intro lexemes
  unfold Approximates
  rw [subquery_result, subquery_result]
  exact (hGroups (scope.ofGroup (splitGroup 0 lexemes)) _ hScope).bind fun _ => .refl _

/-- An operand that nothing is nested in is read without the budget. -/
theorem primary_approximates {scope : Scope}
    {shallowGroups deepGroups : Scope → List Lexeme → Outcome (List Statement)}
    (hScope : scope.limit = limit) (hArgument : ReaderApproximates limit shallow deep)
    (hGroups : GroupsApproximate limit greater shallowGroups deepGroups) :
    ReaderApproximates limit (primary scope shallow shallowGroups)
      (primary { scope with limit := greater } deep deepGroups) := by
  intro lexemes
  cases lexemes with
  | nil => exact .refl _
  | cons lexeme lexemes =>
      rcases operand_cases lexeme lexemes with ⟨literal, hLiteral⟩ | ⟨name, hToken⟩ |
        ⟨name, hToken, hNoCall⟩ | ⟨name, arguments, hName, hOpen⟩ | hOpen | hNone
      · rw [primary_literal hLiteral, primary_literal hLiteral]
        exact .refl _
      · rw [primary_parameter hToken, primary_parameter hToken]
        exact .refl _
      · rw [primary_name hToken hNoCall, primary_name hToken hNoCall]
        exact .refl _
      · rw [primary_call hName hOpen, primary_call hName hOpen]
        exact call_approximates hArgument name arguments
      · rw [primary_group hOpen, primary_group hOpen]
        exact subquery_approximates hScope hGroups lexemes
      · rw [primary_fault hNone, primary_fault hNone]
        exact .refl _

theorem comparison_approximates (hOperand : ReaderApproximates limit shallow deep) :
    ReaderApproximates limit (comparison shallow) (comparison deep) := by
  intro lexemes
  apply (hOperand lexemes).bind
  rintro ⟨left, rest⟩
  simp only
  split
  · exact .refl _
  · exact (hOperand _).bind fun _ => .refl _

/-- What has been read so far is the same in both, since otherwise the first would have ended
there. -/
theorem logicalTail_approximates (hOperand : ReaderApproximates limit shallow deep)
    (rounds : Nat) :
    ∀ left, ReaderApproximates limit (logicalTail shallow rounds left)
      (logicalTail deep rounds left) := by
  induction rounds with
  | zero => exact fun left lexemes => .refl _
  | succ rounds ih =>
      intro left lexemes
      unfold logicalTail
      split
      · exact .refl _
      · exact (hOperand _).bind fun found => ih _ _

theorem logical_approximates (hOperand : ReaderApproximates limit shallow deep) :
    ReaderApproximates limit (logical shallow) (logical deep) :=
  fun lexemes => (comparison_approximates hOperand lexemes).bind fun _ =>
    logicalTail_approximates (comparison_approximates hOperand) _ _ _

end Expressions

section Statements

variable {limit greater : Nat} {scope : Scope} {shallow deep : Reader Expr}

theorem known_approximates {shallow deep : Reader Statement}
    (hReader : ReaderApproximates limit shallow deep) :
    ReaderApproximates limit (known shallow) (known deep) :=
  fun lexemes => (hReader lexemes).bind fun _ => .refl _

/-- Whether bodies are omitted does not depend on the limit of the scope. -/
theorem filterClause_approximates (hExpression : ReaderApproximates limit shallow deep) :
    ReaderApproximates limit (filterClause scope shallow)
      (filterClause { scope with limit := greater } deep) := by
  intro lexemes
  unfold filterClause
  show Approximates limit (if scope.omitsBodies then _ else _)
    (if scope.omitsBodies then _ else _)
  split
  · exact .of_result_eq rfl
  · exact (hExpression lexemes).bind fun _ => .refl _

theorem sortClause_approximates (hExpression : ReaderApproximates limit shallow deep) :
    ReaderApproximates limit (sortClause scope shallow)
      (sortClause { scope with limit := greater } deep) := by
  have hKey : ReaderApproximates limit (criterion shallow) (criterion deep) :=
    fun lexemes => (hExpression lexemes).bind fun _ => .refl _
  intro lexemes
  unfold sortClause
  show Approximates limit (if scope.omitsBodies then _ else _)
    (if scope.omitsBodies then _ else _)
  split
  · exact .of_result_eq rfl
  · exact (commaSeparated_approximates hKey lexemes).bind fun _ => .refl _

theorem limitClause_approximates (hOperand : ReaderApproximates limit shallow deep) :
    ReaderApproximates limit (limitClause shallow) (limitClause deep) := by
  intro lexemes
  apply (hOperand lexemes).bind
  rintro ⟨first, rest⟩
  simp only
  split
  · exact .refl _
  · exact (hOperand _).bind fun _ => .refl _

theorem letClause_approximates (hExpression : ReaderApproximates limit shallow deep) :
    ReaderApproximates limit (letClause scope shallow)
      (letClause { scope with limit := greater } deep) :=
  fun _ => (Approximates.refl _).bind fun _ => (hExpression _).bind fun _ => .refl _

/-- A clause that is stepped over is the same for all budgets. -/
theorem clause_approximates {shallowOperand deepOperand : Reader Expr}
    (hExpression : ReaderApproximates limit shallow deep)
    (hOperand : ReaderApproximates limit shallowOperand deepOperand) (lexeme : Lexeme) :
    ReaderApproximates limit (clause scope shallow shallowOperand lexeme)
      (clause { scope with limit := greater } deep deepOperand lexeme) := by
  rcases clause_cases lexeme.token with hToken | hToken | hToken | hToken | hToken | hToken
  · simp only [clause, hToken]
    exact known_approximates fun _ => .refl _
  · simp only [clause, hToken]
    exact known_approximates (filterClause_approximates hExpression)
  · simp only [clause, hToken]
    exact known_approximates (sortClause_approximates hExpression)
  · simp only [clause, hToken]
    exact known_approximates (limitClause_approximates hOperand)
  · simp only [clause, hToken]
    exact known_approximates (letClause_approximates hExpression)
  · rw [clause_skipped hToken, clause_skipped hToken]
    exact fun _ => .of_result_eq rfl

/-- If a clause ends because its nesting is too deep, so does the body. -/
theorem clauses_approximates {shallowOperand deepOperand : Reader Expr}
    (hExpression : ReaderApproximates limit shallow deep)
    (hOperand : ReaderApproximates limit shallowOperand deepOperand) (rounds : Nat) :
    ∀ lexemes, Approximates limit (clauses scope shallow shallowOperand rounds lexemes)
      (clauses { scope with limit := greater } deep deepOperand rounds lexemes) := by
  induction rounds with
  | zero =>
      intro lexemes
      cases lexemes <;> exact .refl _
  | succ rounds ih =>
      intro lexemes
      cases lexemes with
      | nil => exact .refl _
      | cons lexeme lexemes =>
          exact (clause_approximates hExpression hOperand lexeme lexemes).bind fun found =>
            (ih found.2).bind fun _ => .refl _

/-- Operands take their budget from the same readers as expressions do. -/
theorem statements_approximates
    {shallowGroups deepGroups : Scope → List Lexeme → Outcome (List Statement)}
    (hScope : scope.limit = limit) (hExpression : ReaderApproximates limit shallow deep)
    (hGroups : GroupsApproximate limit greater shallowGroups deepGroups) (lexemes : List Lexeme) :
    Approximates limit (statements scope shallow shallowGroups lexemes)
      (statements { scope with limit := greater } deep deepGroups lexemes) :=
  clauses_approximates hExpression (primary_approximates hScope hExpression hGroups) _ _

end Statements

/-- A smaller budget approximates a greater one. A step of the induction takes one level from
both. -/
theorem budget_approximates {limit greater : Nat} (small : Nat) :
    ∀ large, small ≤ large →
      (∀ scope : Scope, scope.limit = limit →
        ReaderApproximates limit (expression small scope)
          (expression large { scope with limit := greater })) ∧
      GroupsApproximate limit greater (groupBody small) (groupBody large) := by
  induction small with
  | zero =>
      intro large _
      constructor
      · intro scope hScope lexemes
        exact .inr (by simp [expression, hScope])
      · intro scope lexemes hScope
        exact .inr (by simp [groupBody, hScope])
  | succ small ih =>
      intro large hLarge
      obtain ⟨large, rfl⟩ : ∃ n, large = n + 1 := ⟨large - 1, by omega⟩
      obtain ⟨hExpression, hGroups⟩ := ih large (by omega)
      constructor
      · intro scope hScope
        exact logical_approximates (primary_approximates hScope (hExpression scope hScope) hGroups)
      · intro scope lexemes hScope
        exact statements_approximates hScope (hExpression scope hScope) hGroups lexemes

/-- Reading a text with a smaller limit gives the same result as with a greater one, or its nesting
is found too deep. -/
theorem ofText_approximates {small large : Nat} (hLimits : small ≤ large) (letContext : Bool)
    (text : String) :
    Query.ofText ⟨small, letContext⟩ text = Query.ofText ⟨large, letContext⟩ text ∨
      Query.ofText ⟨small, letContext⟩ text = .error (.nestingTooDeep small) := by
  let scope : Scope :=
    Options.scope ⟨small, letContext⟩ (Text.byteSize text.toList) (lexemes text)
  obtain ⟨hExpression, hGroups⟩ :=
    @budget_approximates small large small large hLimits
  have hBody : Approximates small (scopeBody small scope (lexemes text))
      (scopeBody large { scope with limit := large } (lexemes text)) :=
    statements_approximates rfl (hExpression scope rfl) hGroups (lexemes text)
  have hQuery := hBody.bind fun body => .refl (pure (Query.mk body))
  rw [Approximates] at hQuery
  rw [ofText_eq_bind, ofText_eq_bind]
  exact hQuery

end QueryOutline.Depth
