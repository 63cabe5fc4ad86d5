import QueryOutline.Proofs.Grammar.Expressions
import QueryOutline.Reading.Query

/-! The readers of clauses and of whole bodies give what the rules derive within the budget. -/

namespace QueryOutline.Grammar

open Reading

/-- Only a name is the name of a variable. Keywords are not, nor are parameters. -/
theorem variableName_ok_iff {scope : Scope} {lexemes rest : List Lexeme} {name : String} :
    (variableName scope lexemes).result = .ok (name, rest) ↔
      ∃ named, lexemes = named :: rest ∧ named.token = .identifier name := by
  unfold variableName
  split
  · rename_i found start stop more
    simp only [Outcome.result_pure, Except.ok.injEq, Prod.mk.injEq]
    constructor
    · rintro ⟨rfl, rfl⟩
      exact ⟨_, rfl, rfl⟩
    · rintro ⟨named, hLexemes, hName⟩
      obtain ⟨rfl, rfl⟩ := List.cons.inj hLexemes
      exact ⟨Token.identifier.inj hName, rfl⟩
  · rename_i hNone
    simp only [Outcome.result_fail, reduceCtorEq, false_iff]
    rintro ⟨⟨token, start, stop⟩, rfl, rfl⟩
    exact hNone name start stop rest rfl

theorem collectionName_ok_iff {scope : Scope} {lexemes rest : List Lexeme} {name : String} :
    (collectionName scope lexemes).result = .ok (name, rest) ↔
      ∃ source, lexemes = source :: rest ∧ collection? source.token = some name := by
  unfold collectionName
  cases lexemes with
  | nil => simp
  | cons lexeme lexemes =>
      cases hFound : collection? lexeme.token with
      | none =>
          simp only [hFound, Outcome.result_fail, reduceCtorEq, false_iff]
          rintro ⟨source, hLexemes, hSource⟩
          obtain ⟨rfl, rfl⟩ := List.cons.inj hLexemes
          simp [hFound] at hSource
      | some found =>
          simp only [hFound, Outcome.result_pure, Except.ok.injEq, Prod.mk.injEq]
          constructor
          · rintro ⟨rfl, rfl⟩
            exact ⟨lexeme, rfl, hFound⟩
          · rintro ⟨source, hLexemes, hSource⟩
            obtain ⟨rfl, rfl⟩ := List.cons.inj hLexemes
            exact ⟨Option.some.inj (hFound.symm.trans hSource), rfl⟩

/-- The word between the name and the collection of a loop may be missing. -/
theorem forClause_ok_iff {scope : Scope} {lexemes rest : List Lexeme} {statement : Statement} :
    (forClause scope lexemes).result = .ok (statement, rest) ↔
      ∃ named name middle source collection, lexemes = named :: middle ∧
        named.token = .identifier name ∧
        eatOptional (.keyword .isIn) middle = source :: rest ∧
        collection? source.token = some collection ∧ statement = .forIn name collection := by
  simp only [forClause, Outcome.result_bind_eq_ok, Prod.exists, variableName_ok_iff,
    collectionName_ok_iff, Outcome.result_pure, Except.ok.injEq, Prod.mk.injEq]
  constructor
  · rintro ⟨name, middle, ⟨named, rfl, hName⟩, collection, after, ⟨source, hSource, hFound⟩,
      rfl, rfl⟩
    exact ⟨named, name, middle, source, collection, rfl, hName, hSource, hFound, rfl⟩
  · rintro ⟨named, name, middle, source, collection, rfl, hName, hSource, hFound, rfl⟩
    exact ⟨name, middle, ⟨named, rfl, hName⟩, collection, rest, ⟨source, hSource, hFound⟩,
      rfl, rfl⟩

@[simp]
theorem skipClause_result (scope : Scope) (lexemes : List Lexeme) :
    (skipClause scope lexemes).result = .ok (afterClause 0 lexemes) := rfl

section Clauses

variable {budget : Nat} {scope : Scope} {expression operand : Reader Expr}

/-- A sort key at the start of lexemes, nested less than `budget` deep. -/
def KeyedBy (budget : Nat) (lexemes : List Lexeme) (key : Criterion) (rest : List Lexeme) : Prop :=
  ∃ value order middle, Derives (.expression lexemes value middle) ∧
    direction middle = (order, rest) ∧ key = .mk value order ∧ value.nesting < budget

theorem KeyedBy.length_lt {lexemes rest : List Lexeme} {key : Criterion}
    (hKey : KeyedBy budget lexemes key rest) : rest.length < lexemes.length := by
  obtain ⟨value, order, middle, hValue, hOrder, -, -⟩ := hKey
  have hShorter := hValue.expression_length_lt
  have hDirection := (direction_suffix middle).length_le
  rw [hOrder] at hDirection
  exact Nat.lt_of_le_of_lt hDirection hShorter

theorem criterion_ok_iff (hExpression : ReadsExpressions budget expression)
    (lexemes : List Lexeme) (key : Criterion) (rest : List Lexeme) :
    (criterion expression lexemes).result = .ok (key, rest) ↔ KeyedBy budget lexemes key rest := by
  simp only [criterion, Outcome.result_bind_eq_ok, Prod.exists, hExpression _ _ _,
    Outcome.result_pure, Except.ok.injEq, Prod.mk.injEq]
  constructor
  · rintro ⟨value, middle, ⟨hValue, hNesting⟩, rfl, rfl⟩
    exact ⟨value, _, middle, hValue, rfl, rfl, hNesting⟩
  · rintro ⟨value, order, middle, hValue, hOrder, rfl, hNesting⟩
    exact ⟨value, middle, ⟨hValue, hNesting⟩, by rw [hOrder], by rw [hOrder]⟩

/-- The keys of a sort are expressions with directions, and commas between them. -/
theorem separated_keys_iff {lexemes rest : List Lexeme} {values : List Criterion} :
    Separated (KeyedBy budget) lexemes values rest ↔
      Derives (.criteria lexemes values rest) ∧ criteriaNesting values < budget := by
  constructor
  · intro items
    induction items with
    | last hItem hEnd =>
        obtain ⟨value, order, middle, hValue, hOrder, rfl, hNesting⟩ := hItem
        refine ⟨.lastCriterion hValue hOrder hEnd, ?_⟩
        simpa [criteriaNesting, Criterion.nesting] using hNesting
    | next hItem hComma _ ih =>
        obtain ⟨value, order, middle, hValue, hOrder, rfl, hNesting⟩ := hItem
        refine ⟨.nextCriterion hValue hOrder hComma ih.1, ?_⟩
        simpa only [criteriaNesting, Criterion.nesting] using Nat.max_lt.mpr ⟨hNesting, ih.2⟩
  · rintro ⟨derivation, hNesting⟩
    induction values generalizing lexemes with
    | nil => cases derivation
    | cons value values ih =>
        simp only [criteriaNesting] at hNesting
        obtain ⟨hKeyNesting, hMoreNesting⟩ := Nat.max_lt.mp hNesting
        cases derivation with
        | lastCriterion hValue hOrder hEnd =>
            exact .last ⟨_, _, _, hValue, hOrder, rfl, hKeyNesting⟩ hEnd
        | nextCriterion hValue hOrder hComma hMore =>
            exact .next ⟨_, _, _, hValue, hOrder, rfl, hKeyNesting⟩ hComma (ih hMore hMoreNesting)

/-- Sort keys are nested as deep as the deepest of their expressions. -/
theorem commaSeparated_criteria_iff (hExpression : ReadsExpressions budget expression)
    {lexemes rest : List Lexeme} {values : List Criterion} :
    (commaSeparated (criterion expression) lexemes).result = .ok (values, rest) ↔
      Derives (.criteria lexemes values rest) ∧ criteriaNesting values < budget := by
  rw [commaSeparated_ok_iff (criterion_ok_iff hExpression) fun _ _ _ hKey => hKey.length_lt]
  exact separated_keys_iff

/-- Where bodies are omitted, a filter never fails, and its condition is not looked at. -/
theorem filterClause_ok_iff (hExpression : ReadsExpressions budget expression)
    {lexemes rest : List Lexeme} {statement : Statement} :
    (filterClause scope expression lexemes).result = .ok (statement, rest) ↔
      if scope.omitsBodies then statement = .omittedFilter ∧ rest = afterClause 0 lexemes
      else ∃ condition, Derives (.expression lexemes condition rest) ∧
        condition.nesting < budget ∧ statement = .filter condition := by
  unfold filterClause
  split
  · simp only [Outcome.result_bind_eq_ok, skipClause_result, Outcome.result_pure, Except.ok.injEq,
      Prod.mk.injEq, exists_eq_left']
    exact and_congr eq_comm eq_comm
  · simp only [Outcome.result_bind_eq_ok, Prod.exists, hExpression _ _ _, Outcome.result_pure,
      Except.ok.injEq, Prod.mk.injEq]
    constructor
    · rintro ⟨condition, after, ⟨hDerived, hNesting⟩, rfl, rfl⟩
      exact ⟨condition, hDerived, hNesting, rfl⟩
    · rintro ⟨condition, hDerived, hNesting, rfl⟩
      exact ⟨condition, rest, ⟨hDerived, hNesting⟩, rfl, rfl⟩

/-- The keys of a sort are omitted as the condition of a filter is. -/
theorem sortClause_ok_iff (hExpression : ReadsExpressions budget expression)
    {lexemes rest : List Lexeme} {statement : Statement} :
    (sortClause scope expression lexemes).result = .ok (statement, rest) ↔
      if scope.omitsBodies then statement = .omittedSort ∧ rest = afterClause 0 lexemes
      else ∃ criteria, Derives (.criteria lexemes criteria rest) ∧
        criteriaNesting criteria < budget ∧ statement = .sort criteria := by
  unfold sortClause
  split
  · simp only [Outcome.result_bind_eq_ok, skipClause_result, Outcome.result_pure, Except.ok.injEq,
      Prod.mk.injEq, exists_eq_left']
    exact and_congr eq_comm eq_comm
  · simp only [Outcome.result_bind_eq_ok, Prod.exists, commaSeparated_criteria_iff hExpression,
      Outcome.result_pure, Except.ok.injEq, Prod.mk.injEq]
    constructor
    · rintro ⟨criteria, after, ⟨hDerived, hNesting⟩, rfl, rfl⟩
      exact ⟨criteria, hDerived, hNesting, rfl⟩
    · rintro ⟨criteria, hDerived, hNesting, rfl⟩
      exact ⟨criteria, rest, ⟨hDerived, hNesting⟩, rfl, rfl⟩

/-- Without a comma the first operand is the count and the offset is zero. With one it is the
offset, even if it is a number. -/
theorem limitClause_ok_iff (hOperand : ReadsOperands budget operand)
    {lexemes rest : List Lexeme} {statement : Statement} :
    (limitClause operand lexemes).result = .ok (statement, rest) ↔
      (∃ count, Derives (.operand lexemes count rest) ∧ count.nesting ≤ budget ∧
        eat? (.mark .comma) rest = none ∧
        statement = .limit (.number .zero) (.ofExpr count)) ∨
      ∃ offset middle second count, Derives (.operand lexemes offset middle) ∧
        offset.nesting ≤ budget ∧ eat? (.mark .comma) middle = some second ∧
        Derives (.operand second count rest) ∧ count.nesting ≤ budget ∧
        statement = .limit (.expression offset) (.expression count) := by
  constructor
  · intro hRead
    obtain ⟨⟨first, middle⟩, hFirst, hRest⟩ := Outcome.result_bind_eq_ok.mp hRead
    obtain ⟨hDerived, hNesting⟩ := (hOperand _ _ _).mp hFirst
    cases hComma : eat? (.mark .comma) middle with
    | none =>
        simp only [hComma, Outcome.result_pure, Except.ok.injEq, Prod.mk.injEq] at hRest
        obtain ⟨rfl, rfl⟩ := hRest
        exact .inl ⟨first, hDerived, hNesting, hComma, rfl⟩
    | some second =>
        simp only [hComma] at hRest
        obtain ⟨⟨count, after⟩, hCount, hPure⟩ := Outcome.result_bind_eq_ok.mp hRest
        simp only [Outcome.result_pure, Except.ok.injEq, Prod.mk.injEq] at hPure
        obtain ⟨rfl, rfl⟩ := hPure
        obtain ⟨hCountDerived, hCountNesting⟩ := (hOperand _ _ _).mp hCount
        exact .inr ⟨first, middle, second, count, hDerived, hNesting, hComma, hCountDerived,
          hCountNesting, rfl⟩
  · rintro (⟨count, hDerived, hNesting, hEnd, rfl⟩ |
      ⟨offset, middle, second, count, hOffset, hNesting, hComma, hCount, hCountNesting, rfl⟩)
    · exact Outcome.result_bind_eq_ok.mpr
        ⟨_, (hOperand _ _ _).mpr ⟨hDerived, hNesting⟩, by simp [hEnd]⟩
    · refine Outcome.result_bind_eq_ok.mpr ⟨_, (hOperand _ _ _).mpr ⟨hOffset, hNesting⟩, ?_⟩
      simp only [hComma]
      exact Outcome.result_bind_eq_ok.mpr
        ⟨_, (hOperand _ _ _).mpr ⟨hCount, hCountNesting⟩, rfl⟩

/-- The equals sign of a binding may be missing. -/
theorem letClause_ok_iff (hExpression : ReadsExpressions budget expression)
    {lexemes rest : List Lexeme} {statement : Statement} :
    (letClause scope expression lexemes).result = .ok (statement, rest) ↔
      ∃ named name middle value, lexemes = named :: middle ∧ named.token = .identifier name ∧
        Derives (.expression (eatOptional (.mark .assign) middle) value rest) ∧
        value.nesting < budget ∧ statement = .letBe name value := by
  simp only [letClause, Outcome.result_bind_eq_ok, Prod.exists, variableName_ok_iff,
    hExpression _ _ _, Outcome.result_pure, Except.ok.injEq, Prod.mk.injEq]
  constructor
  · rintro ⟨name, middle, ⟨named, rfl, hName⟩, value, after, ⟨hDerived, hNesting⟩, rfl, rfl⟩
    exact ⟨named, name, middle, value, rfl, hName, hDerived, hNesting, rfl⟩
  · rintro ⟨named, name, middle, value, rfl, hName, hDerived, hNesting, rfl⟩
    exact ⟨name, middle, ⟨named, rfl, hName⟩, value, rest, ⟨hDerived, hNesting⟩, rfl, rfl⟩

theorem known_ok_iff {reader : Reader Statement} {lexemes rest : List Lexeme}
    {value : Option Statement} :
    (known reader lexemes).result = .ok (value, rest) ↔
      ∃ statement, (reader lexemes).result = .ok (statement, rest) ∧ value = some statement := by
  simp only [known, Outcome.result_bind_eq_ok, Prod.exists, Outcome.result_pure, Except.ok.injEq,
    Prod.mk.injEq]
  constructor
  · rintro ⟨statement, after, hRead, rfl, rfl⟩
    exact ⟨statement, hRead, rfl⟩
  · rintro ⟨statement, hRead, rfl⟩
    exact ⟨statement, rest, hRead, rfl, rfl⟩

/-- A clause of no known kind is stepped over and never fails. -/
theorem unknown_ok_iff {lexeme : Lexeme} {lexemes rest : List Lexeme} {value : Option Statement} :
    (unknown scope lexeme lexemes).result = .ok (value, rest) ↔
      value = none ∧ rest = afterClause 0 lexemes := by
  have hResult : (unknown scope lexeme lexemes).result = .ok (none, afterClause 0 lexemes) := rfl
  rw [hResult, Except.ok.injEq, Prod.mk.injEq]
  exact and_congr eq_comm eq_comm

/-- A token starts a clause of one of five kinds, or one that is stepped over. -/
theorem clause_cases (token : Token) :
    token = .keyword .forIn ∨ token = .keyword .filter ∨ token = .keyword .sort ∨
    token = .keyword .limit ∨ token = .keyword .letBe ∨ opensStatement token = false := by
  cases token with
  | keyword word => cases word <;> simp [opensStatement]
  | _ => simp [opensStatement]

theorem clause_skipped {lexeme : Lexeme} (hToken : opensStatement lexeme.token = false) :
    clause scope expression operand lexeme = unknown scope lexeme := by
  unfold clause
  cases hCase : lexeme.token with
  | keyword word => cases word <;> simp_all [opensStatement]
  | _ => rfl

/-- Clauses are read as the rules say. -/
theorem clause_ok_iff (hExpression : ReadsExpressions budget expression)
    (hOperand : ReadsOperands budget operand) {lexeme : Lexeme} {lexemes rest : List Lexeme}
    {value : Option Statement} :
    (clause scope expression operand lexeme lexemes).result = .ok (value, rest) ↔
      Derives (.clause scope.omitsBodies (lexeme :: lexemes) value rest) ∧
        bodyNesting value.toList ≤ budget := by
  constructor
  · intro hRead
    rcases clause_cases lexeme.token with hToken | hToken | hToken | hToken | hToken | hToken
    · simp only [clause, hToken, known_ok_iff, forClause_ok_iff] at hRead
      obtain ⟨_, ⟨named, name, middle, source, collection, rfl, hName, hSource, hFound, rfl⟩,
        rfl⟩ := hRead
      exact ⟨.forIn hToken hName hSource hFound, by simp [bodyNesting, Statement.nesting]⟩
    · simp only [clause, hToken, known_ok_iff, filterClause_ok_iff hExpression] at hRead
      cases hOmits : scope.omitsBodies with
      | true =>
          simp only [hOmits] at hRead
          obtain ⟨_, ⟨rfl, rfl⟩, rfl⟩ := hRead
          exact ⟨.omittedFilter hToken, by simp [bodyNesting, Statement.nesting]⟩
      | false =>
          simp only [hOmits] at hRead
          obtain ⟨_, ⟨condition, hCondition, hNesting, rfl⟩, rfl⟩ := hRead
          refine ⟨.filter hToken hCondition, ?_⟩
          simp only [Option.toList, bodyNesting, Statement.nesting]
          omega
    · simp only [clause, hToken, known_ok_iff, sortClause_ok_iff hExpression] at hRead
      cases hOmits : scope.omitsBodies with
      | true =>
          simp only [hOmits] at hRead
          obtain ⟨_, ⟨rfl, rfl⟩, rfl⟩ := hRead
          exact ⟨.omittedSort hToken, by simp [bodyNesting, Statement.nesting]⟩
      | false =>
          simp only [hOmits] at hRead
          obtain ⟨_, ⟨criteria, hCriteria, hNesting, rfl⟩, rfl⟩ := hRead
          refine ⟨.sort hToken hCriteria, ?_⟩
          simp only [Option.toList, bodyNesting, Statement.nesting]
          omega
    · simp only [clause, hToken, known_ok_iff, limitClause_ok_iff hOperand] at hRead
      obtain ⟨_, ⟨count, hCount, hNesting, hEnd, rfl⟩ | ⟨offset, middle, second, count, hOffset,
        hNesting, hComma, hCount, hCountNesting, rfl⟩, rfl⟩ := hRead
      · refine ⟨.limitCount hToken hCount hEnd, ?_⟩
        simpa [bodyNesting, Statement.nesting, Bound.nesting] using hNesting
      · refine ⟨.limitBoth hToken hOffset hComma hCount, ?_⟩
        simp only [Option.toList, bodyNesting, Statement.nesting, Bound.nesting]
        omega
    · simp only [clause, hToken, known_ok_iff, letClause_ok_iff hExpression] at hRead
      obtain ⟨_, ⟨named, name, middle, bound, rfl, hName, hDerived, hNesting, rfl⟩, rfl⟩ := hRead
      refine ⟨.letBe hToken hName hDerived, ?_⟩
      simp only [Option.toList, bodyNesting, Statement.nesting]
      omega
    · rw [clause_skipped hToken, unknown_ok_iff] at hRead
      obtain ⟨rfl, rfl⟩ := hRead
      exact ⟨.skipped hToken, by simp [bodyNesting]⟩
  · rintro ⟨derivation, hNesting⟩
    generalize hOmits : scope.omitsBodies = omits at derivation
    cases derivation with
    | forIn hToken hName hSource hCollection =>
        simp only [clause, hToken, known_ok_iff, forClause_ok_iff]
        exact ⟨_, ⟨_, _, _, _, _, rfl, hName, hSource, hCollection, rfl⟩, rfl⟩
    | filter hToken hCondition =>
        simp only [Option.toList, bodyNesting, Statement.nesting] at hNesting
        simp only [clause, hToken, known_ok_iff, filterClause_ok_iff hExpression, hOmits]
        exact ⟨_, ⟨_, hCondition, by omega, rfl⟩, rfl⟩
    | omittedFilter hToken =>
        simp only [clause, hToken, known_ok_iff, filterClause_ok_iff hExpression, hOmits]
        exact ⟨_, ⟨rfl, trivial⟩, rfl⟩
    | sort hToken hCriteria =>
        simp only [Option.toList, bodyNesting, Statement.nesting] at hNesting
        simp only [clause, hToken, known_ok_iff, sortClause_ok_iff hExpression, hOmits]
        exact ⟨_, ⟨_, hCriteria, by omega, rfl⟩, rfl⟩
    | omittedSort hToken =>
        simp only [clause, hToken, known_ok_iff, sortClause_ok_iff hExpression, hOmits]
        exact ⟨_, ⟨rfl, trivial⟩, rfl⟩
    | limitCount hToken hCount hEnd =>
        simp only [Option.toList, bodyNesting, Statement.nesting, Bound.nesting,
          Bound.nesting_ofExpr] at hNesting
        simp only [clause, hToken, known_ok_iff, limitClause_ok_iff hOperand]
        exact ⟨_, .inl ⟨_, hCount, by omega, hEnd, rfl⟩, rfl⟩
    | limitBoth hToken hOffset hComma hCount =>
        simp only [Option.toList, bodyNesting, Statement.nesting, Bound.nesting] at hNesting
        simp only [clause, hToken, known_ok_iff, limitClause_ok_iff hOperand]
        exact ⟨_, .inr ⟨_, _, _, _, hOffset, by omega, hComma, hCount, by omega, rfl⟩, rfl⟩
    | letBe hToken hName hValue =>
        simp only [Option.toList, bodyNesting, Statement.nesting] at hNesting
        simp only [clause, hToken, known_ok_iff, letClause_ok_iff hExpression]
        exact ⟨_, ⟨_, _, _, _, rfl, hName, hValue, by omega, rfl⟩, rfl⟩
    | skipped hToken =>
        rw [clause_skipped hToken, unknown_ok_iff]
        exact ⟨rfl, rfl⟩

/-- A clause that is read takes at least the lexeme that it starts with, so that every loop over
clauses makes progress. -/
theorem clause_length_le (hExpression : ReadsExpressions budget expression)
    (hOperand : ReadsOperands budget operand) {lexeme : Lexeme} {lexemes rest : List Lexeme}
    {value : Option Statement}
    (hRead : (clause scope expression operand lexeme lexemes).result = .ok (value, rest)) :
    rest.length ≤ lexemes.length :=
  Nat.le_of_lt_succ ((clause_ok_iff hExpression hOperand).mp hRead).1.advances.2

/-- Without lexemes there is an empty body, for any bound. -/
theorem clauses_nil_ok_iff {rounds : Nat} {body : List Statement} :
    (clauses scope expression operand rounds []).result = .ok body ↔
      Derives (.body scope.omitsBodies [] body) ∧ bodyNesting body ≤ budget := by
  simp only [clauses, Outcome.result_pure, Except.ok.injEq]
  constructor
  · rintro rfl
    exact ⟨.bodyEnd, Nat.zero_le _⟩
  · rintro ⟨derivation, -⟩
    generalize hLexemes : ([] : List Lexeme) = lexemes at derivation
    cases derivation with
    | bodyEnd => rfl
    | bodyStep hClause _ =>
        subst hLexemes
        exact absurd hClause.advances.2 (Nat.not_lt_zero _)

/-- Each clause takes a lexeme, so that no clause is left unread for want of rounds. -/
theorem clauses_ok_iff (hExpression : ReadsExpressions budget expression)
    (hOperand : ReadsOperands budget operand) {rounds : Nat} {lexemes : List Lexeme}
    {body : List Statement} (hRounds : lexemes.length ≤ rounds) :
    (clauses scope expression operand rounds lexemes).result = .ok body ↔
      Derives (.body scope.omitsBodies lexemes body) ∧ bodyNesting body ≤ budget := by
  induction rounds generalizing lexemes body with
  | zero =>
      obtain rfl : lexemes = [] := List.length_eq_zero_iff.mp (by omega)
      exact clauses_nil_ok_iff
  | succ rounds ih =>
      cases lexemes with
      | nil => exact clauses_nil_ok_iff
      | cons lexeme lexemes =>
          constructor
          · intro hRead
            obtain ⟨⟨value, rest⟩, hClause, hMore⟩ := Outcome.result_bind_eq_ok.mp hRead
            obtain ⟨hDerived, hNesting⟩ := (clause_ok_iff hExpression hOperand).mp hClause
            have hShorter := hDerived.advances.2
            obtain ⟨more, hMoreRead, hPure⟩ := Outcome.result_bind_eq_ok.mp hMore
            simp only [Outcome.result_pure, Except.ok.injEq] at hPure
            subst hPure
            obtain ⟨hMoreDerived, hMoreNesting⟩ := (ih (by omega)).mp hMoreRead
            refine ⟨.bodyStep hDerived hMoreDerived, ?_⟩
            rw [bodyNesting_append]
            omega
          · rintro ⟨derivation, hNesting⟩
            cases derivation with
            | bodyStep hClause hBody =>
                rw [bodyNesting_append] at hNesting
                have hShorter := hClause.advances.2
                refine Outcome.result_bind_eq_ok.mpr
                  ⟨_, (clause_ok_iff hExpression hOperand).mpr ⟨hClause, by omega⟩, ?_⟩
                exact Outcome.result_bind_eq_ok.mpr
                  ⟨_, (ih (by omega)).mpr ⟨hBody, by omega⟩, rfl⟩

end Clauses

section Bodies

variable {budget : Nat} {scope : Scope} {expression : Reader Expr}
  {inside : Scope → List Lexeme → Outcome (List Statement)}

/-- The bound of the loop is the number of lexemes, which is enough. -/
theorem statements_ok_iff (hExpression : ReadsExpressions budget expression)
    (hInside : ReadsGroups budget inside) {lexemes : List Lexeme} {body : List Statement} :
    (statements scope expression inside lexemes).result = .ok body ↔
      Derives (.body scope.omitsBodies lexemes body) ∧ bodyNesting body ≤ budget :=
  clauses_ok_iff hExpression (primary_ok_iff hExpression hInside) (Nat.le_refl _)

end Bodies

/-- Within a budget, both readers that take from it give what the rules derive. A step of the
induction takes one level from both. -/
theorem reads_within (budget : Nat) :
    (∀ scope, ReadsExpressions budget (expression budget scope)) ∧
      ReadsGroups budget (groupBody budget) := by
  induction budget with
  | zero =>
      constructor
      · intro scope lexemes value rest
        simp [expression]
      · intro scope lexemes body _
        simp [groupBody]
  | succ budget ih =>
      obtain ⟨hExpression, hGroup⟩ := ih
      constructor
      · intro scope
        exact logical_ok_iff (primary_ok_iff (hExpression scope) hGroup)
      · intro scope lexemes body hScope
        have hOmits : scope.omitsBodies = true := by simp [Scope.omitsBodies, hScope]
        rw [Nat.lt_succ_iff, ← hOmits]
        exact statements_ok_iff (hExpression scope) hGroup

/-- A body is read within a budget exactly if the rules derive it and it is not nested deeper. -/
theorem scopeBody_ok_iff {budget : Nat} {scope : Scope} {lexemes : List Lexeme}
    {body : List Statement} :
    (scopeBody budget scope lexemes).result = .ok body ↔
      Derives (.body scope.omitsBodies lexemes body) ∧ bodyNesting body ≤ budget :=
  statements_ok_iff ((reads_within budget).1 scope) (reads_within budget).2

/-- A query is its body, read in the scope of the whole text. -/
theorem ofText_eq_bind (options : Options) (text : String) :
    Query.ofText options text = (scopeBody options.maxDepth
      (options.scope (Text.byteSize text.toList) (lexemes text)) (lexemes text) >>=
        fun body => pure (Query.mk body)).result := by
  rw [Query.ofText, Query.read, Query.ofLexemes, Outcome.result_bind]
  rfl

/-- The value of a reading is the body, wrapped as a query. Events are left aside. -/
theorem ofText_eq_map (options : Options) (text : String) :
    Query.ofText options text = (scopeBody options.maxDepth
      (options.scope (Text.byteSize text.toList) (lexemes text)) (lexemes text)).result.map
        Query.mk := by
  rw [ofText_eq_bind, Outcome.result_bind]
  cases (scopeBody options.maxDepth _ (lexemes text)).result <;> rfl

/-- A query is read from a text exactly if the rules derive its body from the lexemes of the text,
and it is not nested deeper than the options allow. -/
theorem ofText_ok_iff {options : Options} {text : String} {query : Query} :
    Query.ofText options text = .ok query ↔
      Derives (.body (options.letBound (lexemes text)) (lexemes text) query.body) ∧
        query.nesting ≤ options.maxDepth := by
  rw [ofText_eq_bind, Outcome.result_bind_eq_ok]
  simp only [scopeBody_ok_iff, Outcome.result_pure, Except.ok.injEq]
  constructor
  · rintro ⟨body, hBody, rfl⟩
    exact hBody
  · intro hBody
    exact ⟨query.body, hBody, rfl⟩

end QueryOutline.Grammar
