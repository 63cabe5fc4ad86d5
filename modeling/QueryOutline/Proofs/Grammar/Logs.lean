import QueryOutline.Proofs.Grammar.Statements

/-! The log of a reading. What can be logged between two places is said once, step by step, and
every reading keeps to it: each loop, each group and each fault. What is to be shown of all logs
then needs no more than one case for each kind of step. -/

namespace QueryOutline

namespace Outcome

variable {α β : Type}

/-- If the first of two readings ends with a fault, its events are all there are. -/
theorem events_bind_error {first : Outcome α} {fault : Fault} (second : α → Outcome β)
    (hResult : first.result = .error fault) : (first >>= second).events = first.events := by
  change (Outcome.bind first second).events = _
  simp [Outcome.bind, hResult]

end Outcome

namespace Reading

open Grammar

section Steps

/-- The events that a scope can log from some of its lexemes on and up to others. -/
inductive Logs : Scope → List Lexeme → List Event → List Lexeme → Prop where
  /-- Lexemes are taken without a word. -/
  | quiet {scope : Scope} {lexemes rest : List Lexeme} (hRest : rest <:+ lexemes) :
      Logs scope lexemes [] rest
  | trans {scope : Scope} {lexemes middle rest : List Lexeme} {events more : List Event}
      (hFirst : Logs scope lexemes events middle) (hSecond : Logs scope middle more rest) :
      Logs scope lexemes (events ++ more) rest
  /-- A clause of no known kind has started. -/
  | skipping (scope : Scope) (lexemes : List Lexeme) (token : Token) (offset : Nat) :
      Logs scope lexemes [.skipping token offset] lexemes
  /-- The rest of a clause is stepped over. -/
  | skipped (scope : Scope) (lexemes : List Lexeme) :
      Logs scope lexemes
        [.skipped (scope.offset lexemes) (scope.offset (afterClause 0 lexemes))]
        (afterClause 0 lexemes)
  | unclosed (scope : Scope) (lexemes : List Lexeme) :
      Logs scope lexemes [.unclosedGroup] lexemes
  /-- The statements of a group are about to be read. -/
  | entered (scope : Scope) (lexemes : List Lexeme) (depth : Nat) :
      Logs scope lexemes [.enteredGroup lexemes.length depth] lexemes
  /-- What a group logs is logged in the scope around it, up to the parenthesis that closes it. -/
  | group {scope : Scope} {lexemes : List Lexeme} {events : List Event}
      (hBody : Logs (scope.ofGroup (splitGroup 0 lexemes)) (splitGroup 0 lexemes).content events
        []) :
      Logs scope lexemes events
        ((splitGroup 0 lexemes).closing.toList ++ (splitGroup 0 lexemes).rest)

variable {α β : Type} {scope : Scope} {lexemes rest : List Lexeme} {left : α → List Lexeme}
  {right : β → List Lexeme}

/-- The lexemes that a reading leaves, as its value says. A fault leaves none. -/
def leftover (left : α → List Lexeme) (outcome : Outcome α) : List Lexeme :=
  match outcome.result with
  | .ok value => left value
  | .error _ => []

/-- A reading of a body leaves nothing, be it that it ends with a fault. -/
theorem leftover_nil (outcome : Outcome α) : leftover (fun _ => []) outcome = [] := by
  unfold leftover
  split <;> rfl

/-- The events of a reading can be logged between the place where it starts and the place that it
leaves. -/
def Logged (scope : Scope) (lexemes : List Lexeme) (left : α → List Lexeme)
    (outcome : Outcome α) : Prop :=
  Logs scope lexemes outcome.events (leftover left outcome)

/-- A value logs nothing, and what it leaves may be any end of the lexemes. -/
theorem Logged.pure {value : α} (hLeft : left value <:+ lexemes) :
    Logged scope lexemes left (pure value) :=
  Logs.quiet hLeft

/-- A fault logs nothing and leaves nothing, so that whatever was logged before it is all there
is. -/
theorem Logged.fail (fault : Fault) : Logged scope lexemes left (.fail fault) :=
  Logs.quiet List.nil_suffix

theorem Logged.emit {event : Event} (hEvent : Logs scope lexemes [event] lexemes) :
    Logged scope lexemes (fun _ => lexemes) (.emit event) :=
  hEvent

/-- What is read further on is read behind the lexemes in front, too. -/
theorem Logged.behind {outcome : Outcome α} (hRest : rest <:+ lexemes)
    (hLogged : Logged scope rest left outcome) : Logged scope lexemes left outcome :=
  (Logs.quiet hRest).trans hLogged

/-- One reading after another, which starts at the place that the first one leaves. -/
theorem Logged.bind {first : Outcome α} {next : α → Outcome β}
    (hFirst : Logged scope lexemes left first)
    (hNext : ∀ value, Logged scope (left value) right (next value)) :
    Logged scope lexemes right (first >>= next) := by
  unfold Logged leftover at hFirst ⊢
  rw [Outcome.result_bind]
  cases hResult : first.result with
  | error fault =>
      rw [hResult] at hFirst
      rw [Outcome.events_bind_error next hResult]
      exact hFirst
  | ok value =>
      rw [hResult] at hFirst
      rw [Outcome.events_bind_ok next hResult]
      exact hFirst.trans (hNext value)

/-- What a group logs is logged around it, also up to a fault in it. -/
theorem Logged.of_group {outcome : Outcome α}
    (hBody : Logged (scope.ofGroup (splitGroup 0 lexemes)) (splitGroup 0 lexemes).content
      (fun _ => []) outcome) :
    Logged scope lexemes
      (fun _ => (splitGroup 0 lexemes).closing.toList ++ (splitGroup 0 lexemes).rest) outcome := by
  unfold Logged at hBody ⊢
  rw [leftover_nil] at hBody
  have hGroup := Logs.group hBody
  unfold leftover
  cases outcome.result with
  | ok value => exact hGroup
  | error fault =>
      rw [← List.append_nil outcome.events]
      exact hGroup.trans (.quiet List.nil_suffix)

def ReaderLogs (scope : Scope) (reader : Reader α) : Prop :=
  ∀ lexemes, Logged scope lexemes Prod.snd (reader lexemes)

/-- Readers of statements whose events can be logged in every scope. They take all lexemes. -/
def BodiesLog (inside : Scope → List Lexeme → Outcome (List Statement)) : Prop :=
  ∀ scope lexemes, Logged scope lexemes (fun _ => []) (inside scope lexemes)

/-- The one event of a clause that is stepped over reports the place where it starts and the place
where it ends. -/
theorem skipClause_logged (scope : Scope) (lexemes : List Lexeme) :
    Logged scope lexemes id (skipClause scope lexemes) :=
  Logs.skipped scope lexemes

end Steps

section Expressions

variable {α : Type} {scope : Scope} {argument operand : Reader Expr}

/-- The log of a list is that of its items, one behind the other. -/
theorem separated_logs {item : Reader α} (hItem : ReaderLogs scope item) (rounds : Nat) :
    ReaderLogs scope (separated item rounds) := by
  induction rounds with
  | zero =>
      intro lexemes
      exact (hItem lexemes).bind fun _ => .pure (List.suffix_refl _)
  | succ rounds ih =>
      intro lexemes
      apply (hItem lexemes).bind
      rintro ⟨first, rest⟩
      simp only
      split
      · exact .pure (List.suffix_refl _)
      · rename_i hComma
        exact .behind (eat?_suffix hComma)
          ((ih _).bind fun _ => .pure (List.suffix_refl _))

theorem commaSeparated_logs {item : Reader α} (hItem : ReaderLogs scope item) :
    ReaderLogs scope (commaSeparated item) :=
  fun lexemes => separated_logs hItem lexemes.length lexemes

theorem call_logs (hArgument : ReaderLogs scope argument) (name : String) :
    ReaderLogs scope (call argument name) := by
  have hArguments : ReaderLogs scope (callArguments argument) := by
    intro lexemes
    unfold callArguments
    split
    · rename_i hClose
      exact .pure (eat?_suffix hClose)
    · exact (commaSeparated_logs hArgument lexemes).bind fun _ =>
        .pure (eatOptional_suffix _ _)
  exact fun lexemes => (hArguments lexemes).bind fun _ => .pure (List.suffix_refl _)

/-- A group is logged inside its own scope, and what follows it in the scope around it. This is the
only place where the scope of a log changes. -/
theorem subquery_logs {inside : Scope → List Lexeme → Outcome (List Statement)}
    (hInside : BodiesLog inside) : ReaderLogs scope (subquery scope inside) := by
  intro lexemes
  have hBody := Logged.of_group
    (hInside (scope.ofGroup (splitGroup 0 lexemes)) (splitGroup 0 lexemes).content)
  unfold subquery
  simp only
  split
  · exact (Logged.emit (.unclosed _ _)).bind fun _ =>
      hBody.bind fun _ => .pure (List.suffix_append _ _)
  · exact hBody.bind fun _ => .pure (List.suffix_append _ _)

/-- Only calls and groups have anything to log. All other operands take their lexemes in silence. -/
theorem primary_logs {inside : Scope → List Lexeme → Outcome (List Statement)}
    (hArgument : ReaderLogs scope argument) (hInside : BodiesLog inside) :
    ReaderLogs scope (primary scope argument inside) := by
  intro lexemes
  cases lexemes with
  | nil => exact .fail _
  | cons lexeme lexemes =>
      refine .behind (List.suffix_cons _ _) ?_
      rcases operand_cases lexeme lexemes with ⟨literal, hLiteral⟩ | ⟨name, hToken⟩ |
        ⟨name, hToken, hNoCall⟩ | ⟨name, arguments, hName, hOpen⟩ | hOpen | hNone
      · rw [primary_literal hLiteral]
        exact .pure (List.suffix_refl _)
      · rw [primary_parameter hToken]
        exact .pure (members_suffix _ _)
      · rw [primary_name hToken hNoCall]
        exact .pure (members_suffix _ _)
      · rw [primary_call hName hOpen]
        exact .behind (eat?_suffix hOpen) (call_logs hArgument name arguments)
      · rw [primary_group hOpen]
        exact subquery_logs hInside lexemes
      · rw [primary_fault hNone]
        exact .fail _

theorem comparison_logs (hOperand : ReaderLogs scope operand) :
    ReaderLogs scope (comparison operand) := by
  intro lexemes
  apply (hOperand lexemes).bind
  rintro ⟨left, rest⟩
  simp only
  split
  · exact .pure (List.suffix_refl _)
  · rename_i hOperator
    exact .behind (nextOperator?_suffix hOperator)
      ((hOperand _).bind fun _ => .pure (List.suffix_refl _))

/-- The log of a chain is that of its operands, in their order. -/
theorem logicalTail_logs (hOperand : ReaderLogs scope operand) (rounds : Nat) :
    ∀ left, ReaderLogs scope (logicalTail operand rounds left) := by
  induction rounds with
  | zero => exact fun left lexemes => .pure (List.suffix_refl _)
  | succ rounds ih =>
      intro left lexemes
      unfold logicalTail
      split
      · exact .pure (List.suffix_refl _)
      · rename_i hOperator
        exact .behind (nextOperator?_suffix hOperator)
          ((hOperand _).bind fun _ => ih _ _)

theorem logical_logs (hOperand : ReaderLogs scope operand) :
    ReaderLogs scope (logical operand) :=
  fun lexemes => (comparison_logs hOperand lexemes).bind fun _ =>
    logicalTail_logs (comparison_logs hOperand) _ _ _

end Expressions

section Statements

variable {scope : Scope} {expression operand : Reader Expr}

theorem variableName_logs (scope : Scope) : ReaderLogs scope (variableName scope) := by
  intro lexemes
  unfold variableName
  split
  · exact .pure (List.suffix_cons _ _)
  · exact .fail _

theorem collectionName_logs (scope : Scope) : ReaderLogs scope (collectionName scope) := by
  intro lexemes
  unfold collectionName
  split
  · exact .fail _
  · split
    · exact .pure (List.suffix_cons _ _)
    · exact .fail _

theorem forClause_logs (scope : Scope) : ReaderLogs scope (forClause scope) :=
  fun lexemes => (variableName_logs scope lexemes).bind fun _ =>
    .behind (eatOptional_suffix _ _)
      ((collectionName_logs scope _).bind fun _ => .pure (List.suffix_refl _))

/-- Where bodies are omitted, the log is that of the clause that is stepped over, and else that of
the condition. -/
theorem filterClause_logs (hExpression : ReaderLogs scope expression) :
    ReaderLogs scope (filterClause scope expression) := by
  intro lexemes
  unfold filterClause
  split
  · exact (skipClause_logged scope lexemes).bind fun _ => .pure (List.suffix_refl _)
  · exact (hExpression lexemes).bind fun _ => .pure (List.suffix_refl _)

theorem sortClause_logs (hExpression : ReaderLogs scope expression) :
    ReaderLogs scope (sortClause scope expression) := by
  have hKey : ReaderLogs scope (criterion expression) :=
    fun lexemes => (hExpression lexemes).bind fun _ => .pure (direction_suffix _)
  intro lexemes
  unfold sortClause
  split
  · exact (skipClause_logged scope lexemes).bind fun _ => .pure (List.suffix_refl _)
  · exact (commaSeparated_logs hKey lexemes).bind fun _ => .pure (List.suffix_refl _)

theorem limitClause_logs (hOperand : ReaderLogs scope operand) :
    ReaderLogs scope (limitClause operand) := by
  intro lexemes
  apply (hOperand lexemes).bind
  rintro ⟨first, rest⟩
  simp only
  split
  · exact .pure (List.suffix_refl _)
  · rename_i hComma
    exact .behind (eat?_suffix hComma)
      ((hOperand _).bind fun _ => .pure (List.suffix_refl _))

theorem letClause_logs (hExpression : ReaderLogs scope expression) :
    ReaderLogs scope (letClause scope expression) :=
  fun lexemes => (variableName_logs scope lexemes).bind fun _ =>
    .behind (eatOptional_suffix _ _)
      ((hExpression _).bind fun _ => .pure (List.suffix_refl _))

theorem known_logs {reader : Reader Statement} (hReader : ReaderLogs scope reader) :
    ReaderLogs scope (known reader) :=
  fun lexemes => (hReader lexemes).bind fun _ => .pure (List.suffix_refl _)

/-- The event that names the clause comes before the event that reports its range. -/
theorem unknown_logs (scope : Scope) (lexeme : Lexeme) :
    ReaderLogs scope (unknown scope lexeme) :=
  fun lexemes => (Logged.emit (.skipping _ _ _ _)).bind fun _ =>
    (skipClause_logged scope lexemes).bind fun _ => .pure (List.suffix_refl _)

/-- The lexeme that a clause starts with is behind the reading already, so that all that is logged
lies behind it. -/
theorem clause_logs (hExpression : ReaderLogs scope expression)
    (hOperand : ReaderLogs scope operand) (lexeme : Lexeme) :
    ReaderLogs scope (clause scope expression operand lexeme) := by
  rcases clause_cases lexeme.token with hToken | hToken | hToken | hToken | hToken | hToken
  · simp only [clause, hToken]
    exact known_logs (forClause_logs scope)
  · simp only [clause, hToken]
    exact known_logs (filterClause_logs hExpression)
  · simp only [clause, hToken]
    exact known_logs (sortClause_logs hExpression)
  · simp only [clause, hToken]
    exact known_logs (limitClause_logs hOperand)
  · simp only [clause, hToken]
    exact known_logs (letClause_logs hExpression)
  · rw [clause_skipped hToken]
    exact unknown_logs scope lexeme

/-- Nothing is logged in front of the second lexeme: the first one starts a clause, and the log of
the clause starts behind it. -/
theorem clauses_logged (hExpression : ReaderLogs scope expression)
    (hOperand : ReaderLogs scope operand) (rounds : Nat) :
    ∀ lexemes, Logged scope lexemes.tail (fun _ => [])
      (clauses scope expression operand rounds lexemes) := by
  induction rounds with
  | zero =>
      intro lexemes
      cases lexemes <;> exact .pure List.nil_suffix
  | succ rounds ih =>
      intro lexemes
      cases lexemes with
      | nil => exact .pure List.nil_suffix
      | cons lexeme lexemes =>
          exact (clause_logs hExpression hOperand lexeme lexemes).bind fun found =>
            .behind (List.tail_suffix _) ((ih found.2).bind fun _ => .pure (List.suffix_refl _))

/-- Without any lexeme there is nothing to log, so that the log may start behind the first one. -/
theorem statements_logged {inside : Scope → List Lexeme → Outcome (List Statement)}
    (hExpression : ReaderLogs scope expression) (hInside : BodiesLog inside)
    (lexemes : List Lexeme) :
    Logged scope lexemes.tail (fun _ => []) (statements scope expression inside lexemes) :=
  clauses_logged hExpression (primary_logs hExpression hInside) _ _

end Statements

/-- Expressions and groups can be logged, whatever the budget. A step of the induction takes one
level from both. -/
theorem budget_logs (budget : Nat) :
    (∀ scope, ReaderLogs scope (expression budget scope)) ∧ BodiesLog (groupBody budget) := by
  induction budget with
  | zero => exact ⟨fun scope lexemes => .fail _, fun scope lexemes => .fail _⟩
  | succ budget ih =>
      obtain ⟨hExpression, hGroups⟩ := ih
      constructor
      · intro scope
        exact logical_logs (primary_logs (hExpression scope) hGroups)
      · intro scope lexemes
        exact (Logged.emit (.entered _ _ _)).bind fun _ =>
          .behind (List.tail_suffix _) (statements_logged (hExpression scope) hGroups lexemes)

/-- The log of a body, which ends with the lexemes or with a fault. -/
theorem scopeBody_logs (budget : Nat) (scope : Scope) (lexemes : List Lexeme) :
    Logs scope lexemes.tail (scopeBody budget scope lexemes).events [] := by
  obtain ⟨hExpression, hGroups⟩ := budget_logs budget
  have hLogged := statements_logged (hExpression scope) hGroups lexemes
  unfold Logged at hLogged
  rwa [leftover_nil] at hLogged

end Reading

end QueryOutline
