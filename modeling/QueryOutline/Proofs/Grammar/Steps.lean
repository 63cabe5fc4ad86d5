import QueryOutline.Proofs.Grammar.Elision
import QueryOutline.Proofs.Grammar.Enclosure
import QueryOutline.Proofs.Grammar.Sequences

/-! The clauses of a reading in the order in which they are read, each with the place at which it
starts and the place at which it ends. The list goes as far as the reading does, so that it also
tells which clauses were read before a fault. -/

namespace QueryOutline

def Statement.keyword : Statement → Keyword
  | .forIn _ _ => .forIn
  | .filter _ | .omittedFilter => .filter
  | .sort _ | .omittedSort => .sort
  | .limit _ _ => .limit
  | .letBe _ _ => .letBe

instance : DecidablePred Statement.HasBody
  | .filter _ | .sort _ => .isTrue trivial
  | .forIn _ _ | .omittedFilter | .omittedSort | .limit _ _ | .letBe _ _ => .isFalse id

def Options.textScope (options : Options) (text : String) : Reading.Scope :=
  options.scope (Text.byteSize text.toList) (lexemes text)

namespace Grammar

open Reading

/-- One clause of a reading: the lexemes from its start on, the statement that it gives, if it gives
one, and the lexemes behind it. -/
structure ClauseStep where
  lexemes : List Lexeme
  statement : Option Statement
  rest : List Lexeme

namespace ClauseStep

def taken (step : ClauseStep) : List Lexeme :=
  step.lexemes.take (step.lexemes.length - step.rest.length)

def body (step : ClauseStep) : List Lexeme :=
  step.taken.tail

def HasBody (step : ClauseStep) : Prop :=
  ∃ statement ∈ step.statement, statement.HasBody

instance (step : ClauseStep) : Decidable step.HasBody :=
  inferInstanceAs (Decidable (∃ _ ∈ step.statement, _))

/-- The clause leaves no parenthesis open that has the keyword of a statement directly in it. -/
def Sheltered (step : ClauseStep) : Prop :=
  Grammar.Sheltered 0 (openParens 0 step.taken) step.rest

instance (step : ClauseStep) : Decidable step.Sheltered :=
  inferInstanceAs (Decidable (Grammar.Sheltered 0 _ _))

/-- The statement that the clause gives, with the place at which it starts. -/
def dispatched? (step : ClauseStep) : Option (List Lexeme × Statement) :=
  step.statement.map fun statement => (step.lexemes, statement)

theorem taken_append (taken rest : List Lexeme) (statement : Option Statement) :
    (ClauseStep.mk (taken ++ rest) statement rest).taken = taken := by
  simp [ClauseStep.taken]

end ClauseStep

/-- The clauses that are read from the lexemes, at most `rounds` of them. -/
def clauseStepsWithin (budget : Nat) (scope : Scope) :
    (rounds : Nat) → List Lexeme → List ClauseStep
  | _, [] | 0, _ => []
  | rounds + 1, lexeme :: lexemes =>
      match (clause scope (expression budget scope) (operandWithin budget scope) lexeme
        lexemes).result with
      | .error _ => []
      | .ok (statement, rest) =>
          ⟨lexeme :: lexemes, statement, rest⟩ :: clauseStepsWithin budget scope rounds rest

/-- The clauses that are read from the lexemes, up to their end or to a fault. Each of them takes at
least one lexeme. -/
def clauseSteps (budget : Nat) (scope : Scope) (lexemes : List Lexeme) : List ClauseStep :=
  clauseStepsWithin budget scope lexemes.length lexemes

/-- The statements that are read from the lexemes, each with the place of the keyword on which it
was dispatched. -/
def dispatches (budget : Nat) (scope : Scope) (lexemes : List Lexeme) :
    List (List Lexeme × Statement) :=
  (clauseSteps budget scope lexemes).filterMap ClauseStep.dispatched?

section Unrolling

variable {budget : Nat} {scope : Scope} {lexemes rest : List Lexeme} {value : Option Statement}

/-- Two bounds that are not below the number of lexemes give the same clauses. -/
theorem clauseStepsWithin_eq {first second : Nat} (hFirst : lexemes.length ≤ first)
    (hSecond : lexemes.length ≤ second) :
    clauseStepsWithin budget scope first lexemes =
      clauseStepsWithin budget scope second lexemes := by
  refine eq_of_length_le (clauseStepsWithin budget scope) ?_ ?_ hFirst hSecond
  · intro first second
    cases first <;> cases second <;> rfl
  · intro first second lexeme lexemes hMore
    simp only [clauseStepsWithin]
    cases hClause : (clause scope (expression budget scope) (operandWithin budget scope) lexeme
      lexemes).result with
    | error fault => rfl
    | ok found =>
        have hShorter := clause_length_le ((reads_within budget).1 scope)
          (operandWithin_reads budget scope) hClause
        simp only [hMore found.2 hShorter]

/-- The first clause is read, and then the others. -/
theorem Derives.clauseSteps_eq (derivation : Derives (.clause scope.omitsBodies lexemes value rest))
    (hNesting : bodyNesting value.toList ≤ budget) :
    clauseSteps budget scope lexemes =
      ⟨lexemes, value, rest⟩ :: clauseSteps budget scope rest := by
  obtain ⟨lexeme, more, rfl⟩ := derivation.clause_cons
  have hShorter := derivation.advances.2
  have hClause := (clause_ok_iff ((reads_within budget).1 scope)
    (operandWithin_reads budget scope)).mpr ⟨derivation, hNesting⟩
  have hOthers : clauseStepsWithin budget scope more.length rest = clauseSteps budget scope rest :=
    clauseStepsWithin_eq (Nat.le_of_lt_succ hShorter) (Nat.le_refl _)
  simp only [clauseSteps, List.length_cons, clauseStepsWithin, hClause]
  rw [hOthers]
  rfl

/-- The first clause is dispatched if it gives a statement, and then the others. -/
theorem Derives.dispatches_eq (derivation : Derives (.clause scope.omitsBodies lexemes value rest))
    (hNesting : bodyNesting value.toList ≤ budget) :
    dispatches budget scope lexemes =
      value.toList.map (fun statement => (lexemes, statement)) ++ dispatches budget scope rest := by
  rw [dispatches, derivation.clauseSteps_eq hNesting]
  cases value <;> rfl

end Unrolling

/-- What holds for no lexemes, and for the lexemes from a clause on if it holds behind the clause,
holds for all lexemes from which a body is derived. -/
@[elab_as_elim]
theorem Derives.body_induction {omits : Bool}
    {motive : (lexemes : List Lexeme) → (values : List Statement) →
      Derives (.body omits lexemes values) → Prop}
    (nil : motive [] [] .bodyEnd)
    (step : ∀ {lexemes rest : List Lexeme} {value : Option Statement} {values : List Statement}
      (hClause : Derives (.clause omits lexemes value rest))
      (hBody : Derives (.body omits rest values)), motive rest values hBody →
      motive lexemes (value.toList ++ values) (.bodyStep hClause hBody))
    {lexemes : List Lexeme} {values : List Statement}
    (derivation : Derives (.body omits lexemes values)) : motive lexemes values derivation := by
  suffices hAll : ∀ judgement, Derives judgement → ∀ lexemes values
      (hBody : Derives (.body omits lexemes values)),
      judgement = .body omits lexemes values → motive lexemes values hBody from
    hAll _ derivation _ _ derivation rfl
  intro judgement hDerives
  induction hDerives with
  | bodyEnd =>
      rintro _ _ _ hJudgement
      obtain ⟨rfl, rfl, rfl⟩ := Judgement.body.inj hJudgement
      exact nil
  | bodyStep hClause hBody _ ih =>
      rintro _ _ _ hJudgement
      obtain ⟨rfl, rfl, rfl⟩ := Judgement.body.inj hJudgement
      exact step hClause hBody (ih _ _ hBody rfl)
  | _ =>
      rintro _ _ _ hJudgement
      cases hJudgement

/-- A clause that gives a statement starts with its keyword. -/
theorem Derives.clause_keyword {omits : Bool} {lexemes rest : List Lexeme} {statement : Statement}
    (derivation : Derives (.clause omits lexemes (some statement) rest)) :
    ∃ lexeme more, lexemes = lexeme :: more ∧ lexeme.token = .keyword statement.keyword := by
  cases derivation with
  | forIn hToken _ _ _ | filter hToken _ | omittedFilter hToken | sort hToken _
  | omittedSort hToken | limitCount hToken _ _ | limitBoth hToken _ _ _ | letBe hToken _ _ =>
      exact ⟨_, _, rfl, hToken⟩

/-- Every statement has a keyword that opens one, so that a dispatch is always on such a keyword. -/
theorem opensStatement_keyword (statement : Statement) :
    opensStatement (.keyword statement.keyword) = true := by
  cases statement <;> rfl

/-- A clause that gives a statement starts with a keyword of one. -/
theorem Derives.clause_opens {omits : Bool} {lexeme : Lexeme} {lexemes rest : List Lexeme}
    {statement : Statement}
    (derivation : Derives (.clause omits (lexeme :: lexemes) (some statement) rest)) :
    opensStatement lexeme.token = true := by
  obtain ⟨_, _, hLexemes, hToken⟩ := derivation.clause_keyword
  obtain ⟨rfl, rfl⟩ := List.cons.inj hLexemes
  rw [hToken]
  exact opensStatement_keyword statement

/-- A clause that starts with the keyword of a statement gives one. -/
theorem Derives.clause_gives {omits : Bool} {lexeme : Lexeme} {lexemes rest : List Lexeme}
    {value : Option Statement}
    (derivation : Derives (.clause omits (lexeme :: lexemes) value rest))
    (hToken : opensStatement lexeme.token = true) : ∃ statement, value = some statement := by
  cases derivation with
  | skipped hUnknown => simp [hUnknown] at hToken
  | _ => exact ⟨_, rfl⟩

/-- The statements of a body are those that its clauses give, in order. -/
theorem dispatches_statements {budget : Nat} {scope : Scope} {lexemes : List Lexeme}
    {body : List Statement} (hRead : (scopeBody budget scope lexemes).result = .ok body) :
    (dispatches budget scope lexemes).map Prod.snd = body := by
  obtain ⟨derivation, hNesting⟩ := scopeBody_ok_iff.mp hRead
  clear hRead
  induction derivation using Derives.body_induction with
  | nil => rfl
  | @step lexemes rest value values hClause _ ih =>
      rw [bodyNesting_append] at hNesting
      rw [hClause.dispatches_eq (by omega), List.map_append, ih (by omega), List.map_map]
      exact congrArg (· ++ values) (List.map_id _)

end Grammar

end QueryOutline
