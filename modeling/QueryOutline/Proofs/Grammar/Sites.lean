import QueryOutline.Proofs.Grammar.Statements
import Mathlib.Logic.Relation

/-! Where a reading can end with a fault. A reading that fails enters another one that fails, until
one of them stops at a place where no rule applies or where the budget is used up. -/

namespace QueryOutline

/-- Two readings fail if the first one does, or the second one from the value of the first. -/
theorem Outcome.result_bind_eq_error {α β : Type} {first : Outcome α} {second : α → Outcome β}
    {fault : Fault} :
    (first >>= second).result = .error fault ↔
      first.result = .error fault ∨
        ∃ middle, first.result = .ok middle ∧ (second middle).result = .error fault := by
  rw [Outcome.result_bind]
  cases first.result <;> simp [Except.bind]

/-- What is followed by a step that never fails fails by itself. -/
theorem Outcome.result_eq_error_of_bind {α β : Type} {first : Outcome α} {second : α → Outcome β}
    {fault : Fault} (hSecond : ∀ middle, ∃ value, (second middle).result = .ok value)
    (hFails : (first >>= second).result = .error fault) : first.result = .error fault := by
  rcases Outcome.result_bind_eq_error.mp hFails with hFirst | ⟨middle, -, hError⟩
  · exact hFirst
  · obtain ⟨value, hOk⟩ := hSecond middle
    rw [hOk] at hError
    cases hError

namespace Grammar

open Reading

def operandWithin (budget : Nat) (scope : Scope) : Reader Expr :=
  primary scope (expression budget scope) (groupBody budget)

/-- A place in a reading: what is read there, with which budget, and from which lexemes. -/
inductive Site where
  | operand (budget : Nat) (scope : Scope) (lexemes : List Lexeme)
  | comparison (budget : Nat) (scope : Scope) (lexemes : List Lexeme)
  | chain (budget : Nat) (scope : Scope) (lexemes : List Lexeme)
  | expression (budget : Nat) (scope : Scope) (lexemes : List Lexeme)
  | arguments (budget : Nat) (scope : Scope) (lexemes : List Lexeme)
  | criteria (budget : Nat) (scope : Scope) (lexemes : List Lexeme)
  /-- A clause that starts with `lexeme`. -/
  | clause (budget : Nat) (scope : Scope) (lexeme : Lexeme) (lexemes : List Lexeme)
  | body (budget : Nat) (scope : Scope) (lexemes : List Lexeme)
  | group (budget : Nat) (scope : Scope) (lexemes : List Lexeme)

/-- The reading at a place ends with a fault, in whatever round of a loop it is. -/
def Site.Fails : Site → Fault → Prop
  | .operand budget scope lexemes, fault =>
      (operandWithin budget scope lexemes).result = .error fault
  | .comparison budget scope lexemes, fault =>
      (Reading.comparison (operandWithin budget scope) lexemes).result = .error fault
  | .chain budget scope lexemes, fault =>
      ∃ rounds left, (logicalTail (Reading.comparison (operandWithin budget scope)) rounds left
        lexemes).result = .error fault
  | .expression budget scope lexemes, fault =>
      (Reading.expression budget scope lexemes).result = .error fault
  | .arguments budget scope lexemes, fault =>
      ∃ rounds, (separated (Reading.expression budget scope) rounds lexemes).result = .error fault
  | .criteria budget scope lexemes, fault =>
      ∃ rounds, (separated (criterion (Reading.expression budget scope)) rounds lexemes).result =
        .error fault
  | .clause budget scope lexeme lexemes, fault =>
      (Reading.clause scope (Reading.expression budget scope) (operandWithin budget scope) lexeme
        lexemes).result = .error fault
  | .body budget scope lexemes, fault =>
      ∃ rounds, (clauses scope (Reading.expression budget scope) (operandWithin budget scope) rounds
        lexemes).result = .error fault
  | .group budget scope lexemes, fault =>
      (groupBody budget scope lexemes).result = .error fault

/-- A reading ends at its place with a fault of its own. -/
inductive Stops : Site → Fault → Prop where
  | expression {scope : Scope} {lexemes : List Lexeme} :
      Stops (.expression 0 scope lexemes) (.nestingTooDeep scope.limit)
  | group {scope : Scope} {lexemes : List Lexeme} :
      Stops (.group 0 scope lexemes) (.nestingTooDeep scope.limit)
  | nothing {budget : Nat} {scope : Scope} :
      Stops (.operand budget scope []) (.expectedExpression scope.endOffset none)
  | operand {budget : Nat} {scope : Scope} {lexeme : Lexeme} {rest : List Lexeme}
      (hNone : StartsNoOperand lexeme rest) :
      Stops (.operand budget scope (lexeme :: rest)) (operandFault lexeme)
  | variableName {budget : Nat} {scope : Scope} {lexeme : Lexeme} {lexemes : List Lexeme}
      (hToken : lexeme.token = .keyword .forIn ∨ lexeme.token = .keyword .letBe)
      (hNone : ∀ named rest name, lexemes = named :: rest → named.token ≠ .identifier name) :
      Stops (.clause budget scope lexeme lexemes) (.expectedVariable (scope.offset lexemes))
  | collectionName {budget : Nat} {scope : Scope} {lexeme named : Lexeme} {name : String}
      {lexemes : List Lexeme} (hToken : lexeme.token = .keyword .forIn)
      (hName : named.token = .identifier name)
      (hNone : ∀ source rest collection, eatOptional (.keyword .isIn) lexemes = source :: rest →
        collection? source.token ≠ some collection) :
      Stops (.clause budget scope lexeme (named :: lexemes))
        (.expectedCollection (scope.offset (eatOptional (.keyword .isIn) lexemes)))

/-- A reading that another one consists of, with all that was read before it. -/
inductive Enters : Site → Site → Prop where
  | arguments {budget : Nat} {scope : Scope} {lexeme : Lexeme} {name : String}
      {rest inside : List Lexeme} (hName : callee? lexeme.token = some name)
      (hOpen : eat? (.mark .openParen) rest = some inside)
      (hMore : eat? (.mark .closeParen) inside = none) :
      Enters (.operand budget scope (lexeme :: rest)) (.arguments budget scope inside)
  | group {budget : Nat} {scope : Scope} {lexeme : Lexeme} {rest : List Lexeme}
      (hOpen : lexeme.token = .mark .openParen) :
      Enters (.operand budget scope (lexeme :: rest))
        (.group budget (scope.ofGroup (splitGroup 0 rest)) (splitGroup 0 rest).content)
  | left {budget : Nat} {scope : Scope} {lexemes : List Lexeme} :
      Enters (.comparison budget scope lexemes) (.operand budget scope lexemes)
  | right {budget : Nat} {scope : Scope} {lexemes middle second : List Lexeme} {left : Expr}
      {operator : Operator} (hLeft : Derives (.operand lexemes left middle))
      (hOperator : nextOperator? comparison? middle = some (operator, second)) :
      Enters (.comparison budget scope lexemes) (.operand budget scope second)
  | link {budget : Nat} {scope : Scope} {lexemes second : List Lexeme} {operator : Operator}
      (hOperator : nextOperator? logicalOperator? lexemes = some (operator, second)) :
      Enters (.chain budget scope lexemes) (.comparison budget scope second)
  | nextLink {budget : Nat} {scope : Scope} {lexemes second middle : List Lexeme} {right : Expr}
      {operator : Operator}
      (hOperator : nextOperator? logicalOperator? lexemes = some (operator, second))
      (hRight : Derives (.comparison second right middle)) :
      Enters (.chain budget scope lexemes) (.chain budget scope middle)
  | first {budget : Nat} {scope : Scope} {lexemes : List Lexeme} :
      Enters (.expression (budget + 1) scope lexemes) (.comparison budget scope lexemes)
  | chain {budget : Nat} {scope : Scope} {lexemes middle : List Lexeme} {first : Expr}
      (hFirst : Derives (.comparison lexemes first middle)) :
      Enters (.expression (budget + 1) scope lexemes) (.chain budget scope middle)
  | argument {budget : Nat} {scope : Scope} {lexemes : List Lexeme} :
      Enters (.arguments budget scope lexemes) (.expression budget scope lexemes)
  | nextArgument {budget : Nat} {scope : Scope} {lexemes middle second : List Lexeme}
      {value : Expr} (hValue : Derives (.expression lexemes value middle))
      (hComma : eat? (.mark .comma) middle = some second) :
      Enters (.arguments budget scope lexemes) (.arguments budget scope second)
  | key {budget : Nat} {scope : Scope} {lexemes : List Lexeme} :
      Enters (.criteria budget scope lexemes) (.expression budget scope lexemes)
  | nextKey {budget : Nat} {scope : Scope} {lexemes middle second : List Lexeme}
      {value : Expr} (hValue : Derives (.expression lexemes value middle))
      (hComma : eat? (.mark .comma) (direction middle).2 = some second) :
      Enters (.criteria budget scope lexemes) (.criteria budget scope second)
  | condition {budget : Nat} {scope : Scope} {lexeme : Lexeme} {lexemes : List Lexeme}
      (hToken : lexeme.token = .keyword .filter) (hKept : scope.omitsBodies = false) :
      Enters (.clause budget scope lexeme lexemes) (.expression budget scope lexemes)
  | keys {budget : Nat} {scope : Scope} {lexeme : Lexeme} {lexemes : List Lexeme}
      (hToken : lexeme.token = .keyword .sort) (hKept : scope.omitsBodies = false) :
      Enters (.clause budget scope lexeme lexemes) (.criteria budget scope lexemes)
  | bound {budget : Nat} {scope : Scope} {lexeme : Lexeme} {lexemes : List Lexeme}
      (hToken : lexeme.token = .keyword .limit) :
      Enters (.clause budget scope lexeme lexemes) (.operand budget scope lexemes)
  | nextBound {budget : Nat} {scope : Scope} {lexeme : Lexeme}
      {lexemes middle second : List Lexeme} {offset : Expr}
      (hToken : lexeme.token = .keyword .limit) (hOffset : Derives (.operand lexemes offset middle))
      (hComma : eat? (.mark .comma) middle = some second) :
      Enters (.clause budget scope lexeme lexemes) (.operand budget scope second)
  | value {budget : Nat} {scope : Scope} {lexeme named : Lexeme} {name : String}
      {lexemes : List Lexeme} (hToken : lexeme.token = .keyword .letBe)
      (hName : named.token = .identifier name) :
      Enters (.clause budget scope lexeme (named :: lexemes))
        (.expression budget scope (eatOptional (.mark .assign) lexemes))
  | clause {budget : Nat} {scope : Scope} {lexeme : Lexeme} {lexemes : List Lexeme} :
      Enters (.body budget scope (lexeme :: lexemes)) (.clause budget scope lexeme lexemes)
  | nextClause {budget : Nat} {scope : Scope} {lexemes rest : List Lexeme}
      {statement : Option Statement}
      (hClause : Derives (.clause scope.omitsBodies lexemes statement rest)) :
      Enters (.body budget scope lexemes) (.body budget scope rest)
  | body {budget : Nat} {scope : Scope} {lexemes : List Lexeme} :
      Enters (.group (budget + 1) scope lexemes) (.body budget scope lexemes)

/-- An operand takes no level of nesting itself, so that its nesting may be as great as the
budget. -/
theorem operandWithin_reads (budget : Nat) (scope : Scope) :
    ReadsOperands budget (operandWithin budget scope) :=
  primary_ok_iff ((reads_within budget).1 scope) (reads_within budget).2

section Steps

variable {budget : Nat} {scope : Scope} {lexemes : List Lexeme} {fault : Fault}

/-- A fault is either raised at its place or comes out of a reading that was entered there. -/
def Site.Traces (site : Site) (fault : Fault) : Prop :=
  Stops site fault ∨ ∃ next, Enters site next ∧ next.Fails fault

/-- An operand stops where none starts and enters the arguments of a call or a group. Nothing else
can fail in it. -/
theorem Site.operand_traces (hFails : (Site.operand budget scope lexemes).Fails fault) :
    (Site.operand budget scope lexemes).Traces fault := by
  change (primary _ _ _ lexemes).result = _ at hFails
  cases lexemes with
  | nil =>
      obtain rfl := Except.error.inj hFails
      exact .inl .nothing
  | cons lexeme lexemes =>
      rcases operand_cases lexeme lexemes with ⟨literal, hLiteral⟩ | ⟨name, hToken⟩ |
        ⟨name, hToken, hNoCall⟩ | ⟨name, arguments, hName, hOpen⟩ | hOpen | hNone
      · simp [primary_literal hLiteral] at hFails
      · simp [primary_parameter hToken] at hFails
      · simp [primary_name hToken hNoCall] at hFails
      · rw [primary_call hName hOpen] at hFails
        unfold call callArguments at hFails
        cases hClose : eat? (.mark .closeParen) arguments with
        | some after => simp [hClose] at hFails
        | none =>
            simp only [hClose] at hFails
            have hArguments := Outcome.result_eq_error_of_bind (fun _ => ⟨_, rfl⟩) hFails
            have hSeparated := Outcome.result_eq_error_of_bind (fun _ => ⟨_, rfl⟩) hArguments
            exact .inr ⟨_, .arguments hName hOpen hClose, _, hSeparated⟩
      · rw [primary_group hOpen, subquery_result] at hFails
        exact .inr ⟨_, .group hOpen, Outcome.result_eq_error_of_bind (fun _ => ⟨_, rfl⟩) hFails⟩
      · rw [primary_fault hNone] at hFails
        obtain rfl := Except.error.inj hFails
        exact .inl (.operand hNone)

/-- A comparison fails in its left operand or, behind the operator, in its right one. -/
theorem Site.comparison_traces (hFails : (Site.comparison budget scope lexemes).Fails fault) :
    (Site.comparison budget scope lexemes).Traces fault := by
  rcases Outcome.result_bind_eq_error.mp hFails with hLeft | ⟨⟨left, middle⟩, hLeft, hRest⟩
  · exact .inr ⟨_, .left, hLeft⟩
  · have hDerived := ((operandWithin_reads budget scope _ _ _).mp hLeft).1
    cases hNext : nextOperator? comparison? middle with
    | none => simp [hNext] at hRest
    | some found =>
        obtain ⟨operator, second⟩ := found
        simp only [hNext] at hRest
        have hRight := Outcome.result_eq_error_of_bind (fun _ => ⟨_, rfl⟩) hRest
        exact .inr ⟨_, .right hDerived hNext, hRight⟩

/-- A chain fails in the comparison behind its first operator, or in the chain behind that
comparison. How many links were read before does not matter. -/
theorem Site.chain_traces (hFails : (Site.chain budget scope lexemes).Fails fault) :
    (Site.chain budget scope lexemes).Traces fault := by
  obtain ⟨rounds, left, hFails⟩ := hFails
  cases rounds with
  | zero => cases hFails
  | succ rounds =>
      unfold logicalTail at hFails
      cases hNext : nextOperator? logicalOperator? lexemes with
      | none => simp [hNext] at hFails
      | some found =>
          obtain ⟨operator, second⟩ := found
          simp only [hNext] at hFails
          rcases Outcome.result_bind_eq_error.mp hFails with
            hRight | ⟨⟨right, middle⟩, hRight, hMore⟩
          · exact .inr ⟨_, .link hNext, hRight⟩
          · have hDerived := ((comparison_ok_iff (operandWithin_reads budget scope)).mp hRight).1
            exact .inr ⟨_, .nextLink hNext hDerived, _, _, hMore⟩

/-- An expression stops where the budget is used up. Otherwise it fails in its first comparison or
in the chain behind it. -/
theorem Site.expression_traces (hFails : (Site.expression budget scope lexemes).Fails fault) :
    (Site.expression budget scope lexemes).Traces fault := by
  cases budget with
  | zero =>
      obtain rfl := Except.error.inj hFails
      exact .inl .expression
  | succ budget =>
      rcases Outcome.result_bind_eq_error.mp hFails with hFirst | ⟨⟨first, middle⟩, hFirst, hMore⟩
      · exact .inr ⟨_, .first, hFirst⟩
      · have hDerived := ((comparison_ok_iff (operandWithin_reads budget scope)).mp hFirst).1
        exact .inr ⟨_, .chain hDerived, _, _, hMore⟩

/-- A group stops where the budget is used up, and else it fails in its body. -/
theorem Site.group_traces (hFails : (Site.group budget scope lexemes).Fails fault) :
    (Site.group budget scope lexemes).Traces fault := by
  cases budget with
  | zero =>
      obtain rfl := Except.error.inj hFails
      exact .inl .group
  | succ budget => exact .inr ⟨_, .body, lexemes.length, hFails⟩

/-- Items with commas between them fail at one of the items. -/
theorem separated_error {α : Type} {item : Reader α} {rounds : Nat}
    (hFails : (separated item rounds lexemes).result = .error fault) :
    (item lexemes).result = .error fault ∨
      ∃ value middle second rounds, (item lexemes).result = .ok (value, middle) ∧
        eat? (.mark .comma) middle = some second ∧
        (separated item rounds second).result = .error fault := by
  cases rounds with
  | zero => exact .inl (Outcome.result_eq_error_of_bind (fun _ => ⟨_, rfl⟩) hFails)
  | succ rounds =>
      rcases Outcome.result_bind_eq_error.mp hFails with hFirst | ⟨⟨value, middle⟩, hFirst, hRest⟩
      · exact .inl hFirst
      · cases hComma : eat? (.mark .comma) middle with
        | none => simp [hComma] at hRest
        | some second =>
            simp only [hComma] at hRest
            have hMore := Outcome.result_eq_error_of_bind (fun _ => ⟨_, rfl⟩) hRest
            exact .inr ⟨value, middle, second, rounds, hFirst, hComma, hMore⟩

/-- Arguments fail in the first of them or, behind a comma, in the others. -/
theorem Site.arguments_traces (hFails : (Site.arguments budget scope lexemes).Fails fault) :
    (Site.arguments budget scope lexemes).Traces fault := by
  obtain ⟨rounds, hFails⟩ := hFails
  rcases separated_error hFails with hFirst | ⟨value, middle, second, rounds, hFirst, hComma, hMore⟩
  · exact .inr ⟨_, .argument, hFirst⟩
  · have hDerived := (((reads_within budget).1 scope _ _ _).mp hFirst).1
    exact .inr ⟨_, .nextArgument hDerived hComma, _, hMore⟩

/-- Sort keys fail as arguments do. The direction behind a key cannot fail. -/
theorem Site.criteria_traces (hFails : (Site.criteria budget scope lexemes).Fails fault) :
    (Site.criteria budget scope lexemes).Traces fault := by
  obtain ⟨rounds, hFails⟩ := hFails
  rcases separated_error hFails with hFirst | ⟨key, rest, second, rounds, hFirst, hComma, hMore⟩
  · exact .inr ⟨_, .key, Outcome.result_eq_error_of_bind (fun _ => ⟨_, rfl⟩) hFirst⟩
  · obtain ⟨value, order, middle, hDerived, hOrder, -, -⟩ :=
      (criterion_ok_iff ((reads_within budget).1 scope) _ _ _).mp hFirst
    refine .inr ⟨_, .nextKey hDerived ?_, _, hMore⟩
    rw [hOrder]
    exact hComma

theorem known_error {reader : Reader Statement}
    (hFails : (known reader lexemes).result = .error fault) :
    (reader lexemes).result = .error fault :=
  Outcome.result_eq_error_of_bind (fun _ => ⟨_, rfl⟩) hFails

/-- Only a name that is missing makes the reading of a name fail. -/
theorem variableName_error (hFails : (variableName scope lexemes).result = .error fault) :
    fault = .expectedVariable (scope.offset lexemes) ∧
      ∀ named rest name, lexemes = named :: rest → named.token ≠ .identifier name := by
  have hNone : ∀ named rest name, lexemes = named :: rest → named.token ≠ .identifier name := by
    rintro named rest name rfl hName
    have hOk : (variableName scope (named :: rest)).result = .ok (name, rest) :=
      variableName_ok_iff.mpr ⟨named, rfl, hName⟩
    rw [hOk] at hFails
    cases hFails
  refine ⟨?_, hNone⟩
  unfold variableName at hFails
  split at hFails
  · cases hFails
  · exact (Except.error.inj hFails).symm

/-- The fault is raised at the lexeme that names no collection, or at the end. -/
theorem collectionName_error (hFails : (collectionName scope lexemes).result = .error fault) :
    fault = .expectedCollection (scope.offset lexemes) ∧
      ∀ source rest collection, lexemes = source :: rest →
        collection? source.token ≠ some collection := by
  unfold collectionName at hFails
  cases lexemes with
  | nil =>
      obtain rfl := Except.error.inj hFails
      exact ⟨rfl, fun source rest collection hLexemes => by cases hLexemes⟩
  | cons lexeme lexemes =>
      cases hFound : collection? lexeme.token with
      | some found => simp [hFound] at hFails
      | none =>
          simp only [hFound, Outcome.result_fail, Except.error.injEq] at hFails
          subst hFails
          refine ⟨rfl, ?_⟩
          rintro source rest collection hLexemes
          obtain ⟨rfl, rfl⟩ := List.cons.inj hLexemes
          simp [hFound]

/-- A clause stops where the name of its variable or of its collection is missing, and else it fails
in its expressions. A clause that is stepped over cannot fail. -/
theorem Site.clause_traces {lexeme : Lexeme}
    (hFails : (Site.clause budget scope lexeme lexemes).Fails fault) :
    (Site.clause budget scope lexeme lexemes).Traces fault := by
  change (Reading.clause _ _ _ lexeme lexemes).result = _ at hFails
  rcases clause_cases lexeme.token with hToken | hToken | hToken | hToken | hToken | hToken
  · simp only [Reading.clause, hToken] at hFails
    rcases Outcome.result_bind_eq_error.mp (known_error hFails) with
      hName | ⟨⟨name, middle⟩, hName, hRest⟩
    · obtain ⟨rfl, hNone⟩ := variableName_error hName
      exact .inl (.variableName (.inl hToken) hNone)
    · obtain ⟨named, rfl, hNamed⟩ := variableName_ok_iff.mp hName
      have hCollection := Outcome.result_eq_error_of_bind (fun _ => ⟨_, rfl⟩) hRest
      obtain ⟨rfl, hNone⟩ := collectionName_error hCollection
      exact .inl (.collectionName hToken hNamed hNone)
  · simp only [Reading.clause, hToken] at hFails
    have hFilter := known_error hFails
    unfold filterClause at hFilter
    split at hFilter
    · cases hFilter
    · rename_i hKept
      have hCondition := Outcome.result_eq_error_of_bind (fun _ => ⟨_, rfl⟩) hFilter
      exact .inr ⟨_, .condition hToken (Bool.not_eq_true _ ▸ hKept), hCondition⟩
  · simp only [Reading.clause, hToken] at hFails
    have hSort := known_error hFails
    unfold sortClause at hSort
    split at hSort
    · cases hSort
    · rename_i hKept
      have hKeys := Outcome.result_eq_error_of_bind (fun _ => ⟨_, rfl⟩) hSort
      exact .inr ⟨_, .keys hToken (Bool.not_eq_true _ ▸ hKept), _, hKeys⟩
  · simp only [Reading.clause, hToken] at hFails
    rcases Outcome.result_bind_eq_error.mp (known_error hFails) with
      hFirst | ⟨⟨first, middle⟩, hFirst, hRest⟩
    · exact .inr ⟨_, .bound hToken, hFirst⟩
    · have hDerived := ((operandWithin_reads budget scope _ _ _).mp hFirst).1
      cases hComma : eat? (.mark .comma) middle with
      | none => simp [hComma] at hRest
      | some second =>
          simp only [hComma] at hRest
          have hSecond := Outcome.result_eq_error_of_bind (fun _ => ⟨_, rfl⟩) hRest
          exact .inr ⟨_, .nextBound hToken hDerived hComma, hSecond⟩
  · simp only [Reading.clause, hToken] at hFails
    rcases Outcome.result_bind_eq_error.mp (known_error hFails) with
      hName | ⟨⟨name, middle⟩, hName, hRest⟩
    · obtain ⟨rfl, hNone⟩ := variableName_error hName
      exact .inl (.variableName (.inr hToken) hNone)
    · obtain ⟨named, rfl, hNamed⟩ := variableName_ok_iff.mp hName
      have hValue := Outcome.result_eq_error_of_bind (fun _ => ⟨_, rfl⟩) hRest
      exact .inr ⟨_, .value hToken hNamed, hValue⟩
  · rw [clause_skipped hToken] at hFails
    cases hFails

/-- A body fails in its first clause, or in what is left behind that clause. It fails nowhere else,
since a loop without rounds or lexemes gives an empty body. -/
theorem Site.body_traces (hFails : (Site.body budget scope lexemes).Fails fault) :
    (Site.body budget scope lexemes).Traces fault := by
  obtain ⟨rounds, hFails⟩ := hFails
  cases rounds with
  | zero => cases lexemes <;> cases hFails
  | succ rounds =>
      cases lexemes with
      | nil => cases hFails
      | cons lexeme lexemes =>
          rcases Outcome.result_bind_eq_error.mp hFails with
            hClause | ⟨⟨statement, rest⟩, hClause, hMore⟩
          · exact .inr ⟨_, .clause, hClause⟩
          · have hDerived := ((clause_ok_iff ((reads_within budget).1 scope)
              (operandWithin_reads budget scope)).mp hClause).1
            have hOthers := Outcome.result_eq_error_of_bind (fun _ => ⟨_, rfl⟩) hMore
            exact .inr ⟨_, .nextClause hDerived, _, hOthers⟩

/-- A reading that fails stops where it is, or it enters another one that fails. -/
theorem Site.traces {site : Site} (hFails : site.Fails fault) : site.Traces fault := by
  cases site with
  | operand => exact Site.operand_traces hFails
  | comparison => exact Site.comparison_traces hFails
  | chain => exact Site.chain_traces hFails
  | expression => exact Site.expression_traces hFails
  | arguments => exact Site.arguments_traces hFails
  | criteria => exact Site.criteria_traces hFails
  | clause => exact Site.clause_traces hFails
  | body => exact Site.body_traces hFails
  | group => exact Site.group_traces hFails

end Steps

def Site.lexemes : Site → List Lexeme
  | .operand _ _ lexemes | .comparison _ _ lexemes | .chain _ _ lexemes
  | .expression _ _ lexemes | .arguments _ _ lexemes | .criteria _ _ lexemes
  | .body _ _ lexemes | .group _ _ lexemes => lexemes
  | .clause _ _ lexeme lexemes => lexeme :: lexemes

def Site.budget : Site → Nat
  | .operand budget _ _ | .comparison budget _ _ | .chain budget _ _ | .expression budget _ _
  | .arguments budget _ _ | .criteria budget _ _ | .body budget _ _ | .group budget _ _
  | .clause budget _ _ _ => budget

/-- The levels that the reading at a place takes from its budget before it reads a lexeme. -/
def Site.level : Site → Nat
  | .expression _ _ _ | .arguments _ _ _ | .criteria _ _ _ | .group _ _ _ => 1
  | .operand _ _ _ | .comparison _ _ _ | .chain _ _ _ | .body _ _ _ | .clause _ _ _ _ => 0

/-- How high a reading stands in the grammar, among those from the same lexemes. -/
def Site.rank : Site → Nat
  | .operand _ _ _ | .clause _ _ _ _ => 0
  | .comparison _ _ _ | .chain _ _ _ | .body _ _ _ => 1
  | .expression _ _ _ | .group _ _ _ => 2
  | .arguments _ _ _ | .criteria _ _ _ => 3

/-- A token that is taken makes the lexemes fewer, which is what bounds the way to a fault. -/
theorem eat?_length_lt {token : Token} {lexemes rest : List Lexeme}
    (hEaten : eat? token lexemes = some rest) : rest.length < lexemes.length := by
  obtain ⟨lexeme, rfl, -⟩ := eat?_eq_some hEaten
  exact Nat.lt_succ_self _

theorem nextOperator?_length_lt {operator? : Token → Option Operator} {lexemes rest : List Lexeme}
    {operator : Operator} (hNext : nextOperator? operator? lexemes = some (operator, rest)) :
    rest.length < lexemes.length := by
  obtain ⟨lexeme, rfl, -⟩ := nextOperator?_eq_some hNext
  exact Nat.lt_succ_self _

/-- A reading enters others from fewer lexemes, or from the same ones for something that stands
lower in the grammar. A level that is taken from the budget has a lexeme of its own. -/
theorem Enters.bounds {site next : Site} (enters : Enters site next) :
    4 * next.lexemes.length + next.rank < 4 * site.lexemes.length + site.rank ∧
      site.budget + next.lexemes.length + next.level ≤
        next.budget + site.lexemes.length + site.level := by
  cases enters with
  | arguments _ hOpen _ =>
      have hInside := eat?_length_lt hOpen
      simp only [Site.lexemes, Site.budget, Site.level, Site.rank, List.length_cons]
      omega
  | @group _ _ _ rest _ =>
      have hContent := (splitGroup_prefix_content 0 rest).length_le
      simp only [Site.lexemes, Site.budget, Site.level, Site.rank, List.length_cons]
      omega
  | right hLeft hOperator =>
      have hMiddle := hLeft.advances.2
      have hSecond := nextOperator?_length_lt hOperator
      simp only [Site.lexemes, Site.budget, Site.level, Site.rank]
      omega
  | link hOperator =>
      have hSecond := nextOperator?_length_lt hOperator
      simp only [Site.lexemes, Site.budget, Site.level, Site.rank]
      omega
  | nextLink hOperator hRight =>
      have hSecond := nextOperator?_length_lt hOperator
      have hMiddle := hRight.advances.2
      simp only [Site.lexemes, Site.budget, Site.level, Site.rank]
      omega
  | chain hFirst =>
      have hMiddle := hFirst.advances.2
      simp only [Site.lexemes, Site.budget, Site.level, Site.rank]
      omega
  | nextArgument hValue hComma =>
      have hMiddle := hValue.expression_length_lt
      have hSecond := eat?_length_lt hComma
      simp only [Site.lexemes, Site.budget, Site.level, Site.rank]
      omega
  | @nextKey _ _ _ middle _ _ hValue hComma =>
      have hMiddle := hValue.expression_length_lt
      have hOrdered := (direction_suffix middle).length_le
      have hSecond := eat?_length_lt hComma
      simp only [Site.lexemes, Site.budget, Site.level, Site.rank]
      omega
  | nextBound _ hOffset hComma =>
      have hMiddle := hOffset.advances.2
      have hSecond := eat?_length_lt hComma
      simp only [Site.lexemes, Site.budget, Site.level, Site.rank, List.length_cons]
      omega
  | @value _ _ _ _ _ lexemes _ _ =>
      have hRest := (eatOptional_suffix (.mark .assign) lexemes).length_le
      simp only [Site.lexemes, Site.budget, Site.level, Site.rank, List.length_cons]
      omega
  | nextClause hClause =>
      have hRest := hClause.advances.2
      simp only [Site.lexemes, Site.budget, Site.level, Site.rank]
      omega
  | left | first | argument | key | condition _ _ | keys _ _ | bound _ | clause | body =>
      simp only [Site.lexemes, Site.budget, Site.level, Site.rank, List.length_cons]
      omega

/-- Every fault is raised at a place that the reading entered, from its start on. -/
theorem Site.exists_stop {site : Site} {fault : Fault} (hFails : site.Fails fault) :
    ∃ stop, Relation.ReflTransGen Enters site stop ∧ Stops stop fault := by
  induction hSize : 4 * site.lexemes.length + site.rank using Nat.strongRecOn generalizing site with
  | ind size ih =>
      rcases Site.traces hFails with hStops | ⟨next, enters, hNext⟩
      · exact ⟨site, .refl, hStops⟩
      · obtain ⟨stop, hPath, hStops⟩ := ih _ (hSize ▸ enters.bounds.1) hNext rfl
        exact ⟨stop, .head enters hPath, hStops⟩

/-- A property that every entered reading inherits holds where a fault is raised. -/
theorem Site.stops_within {site : Site} {fault : Fault} {P : Site → Prop} (hSite : P site)
    (hEnters : ∀ site next, Enters site next → P site → P next) (hFails : site.Fails fault) :
    ∃ stop, P stop ∧ Stops stop fault := by
  obtain ⟨stop, hPath, hStops⟩ := Site.exists_stop hFails
  refine ⟨stop, ?_, hStops⟩
  clear hStops
  induction hPath with
  | refl => exact hSite
  | tail _ enters ih => exact hEnters _ _ enters ih

end Grammar

end QueryOutline
