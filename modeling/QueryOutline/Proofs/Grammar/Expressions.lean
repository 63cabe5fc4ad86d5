import QueryOutline.Proofs.Grammar.Elision
import QueryOutline.Proofs.Grammar.Progress
import QueryOutline.Proofs.Outline.Nesting

/-! The readers of expressions give a value exactly if the rules derive it and its nesting is within
the budget. Each reader is compared with its judgement for any readers of what is nested in it that
are known to compare well. -/

namespace QueryOutline.Grammar

open Reading

section Separated

variable {α : Type}

/-- Items with commas between them, at least one, where `item` says what an item is. -/
inductive Separated (item : List Lexeme → α → List Lexeme → Prop) :
    List Lexeme → List α → List Lexeme → Prop where
  | last {lexemes rest : List Lexeme} {value : α}
      (hItem : item lexemes value rest) (hEnd : eat? (.mark .comma) rest = none) :
      Separated item lexemes [value] rest
  | next {lexemes middle second rest : List Lexeme} {value : α} {values : List α}
      (hItem : item lexemes value middle) (hComma : eat? (.mark .comma) middle = some second)
      (hMore : Separated item second values rest) :
      Separated item lexemes (value :: values) rest

variable {item : List Lexeme → α → List Lexeme → Prop} {reader : Reader α}

/-- A list takes at least one lexeme if its items do. -/
theorem Separated.length_lt
    (hShorter : ∀ lexemes value rest, item lexemes value rest → rest.length < lexemes.length)
    {lexemes rest : List Lexeme} {values : List α} (items : Separated item lexemes values rest) :
    rest.length < lexemes.length := by
  induction items with
  | last hItem _ => exact hShorter _ _ _ hItem
  | next hItem hComma _ ih =>
      have hFirst := hShorter _ _ _ hItem
      have hSecond := (eat?_suffix hComma).length_le
      omega

/-- There are no more commas than lexemes, so that no item is left unread for want of rounds. -/
theorem separated_ok_iff
    (hReader : ∀ lexemes value rest,
      (reader lexemes).result = .ok (value, rest) ↔ item lexemes value rest)
    (hShorter : ∀ lexemes value rest, item lexemes value rest → rest.length < lexemes.length)
    {rounds : Nat} {lexemes rest : List Lexeme} {values : List α}
    (hRounds : lexemes.length ≤ rounds) :
    (separated reader rounds lexemes).result = .ok (values, rest) ↔
      Separated item lexemes values rest := by
  induction rounds generalizing lexemes values with
  | zero =>
      constructor
      · intro hRead
        obtain ⟨⟨value, middle⟩, hValue, -⟩ := Outcome.result_bind_eq_ok.mp hRead
        have hFirst := hShorter _ _ _ ((hReader _ _ _).mp hValue)
        omega
      · intro items
        have hItems := items.length_lt hShorter
        omega
  | succ rounds ih =>
      constructor
      · intro hRead
        obtain ⟨⟨value, middle⟩, hValue, hRest⟩ := Outcome.result_bind_eq_ok.mp hRead
        have hItem := (hReader _ _ _).mp hValue
        have hFirst := hShorter _ _ _ hItem
        cases hComma : eat? (.mark .comma) middle with
        | none =>
            simp only [hComma, Outcome.result_pure, Except.ok.injEq, Prod.mk.injEq] at hRest
            obtain ⟨rfl, rfl⟩ := hRest
            exact .last hItem hComma
        | some second =>
            simp only [hComma] at hRest
            obtain ⟨⟨more, after⟩, hMore, hPure⟩ := Outcome.result_bind_eq_ok.mp hRest
            simp only [Outcome.result_pure, Except.ok.injEq, Prod.mk.injEq] at hPure
            obtain ⟨rfl, rfl⟩ := hPure
            have hSecond := (eat?_suffix hComma).length_le
            exact .next hItem hComma ((ih (by omega)).mp hMore)
      · intro items
        cases items with
        | last hItem hEnd =>
            exact Outcome.result_bind_eq_ok.mpr ⟨_, (hReader _ _ _).mpr hItem, by simp [hEnd]⟩
        | next hItem hComma hMore =>
            have hFirst := hShorter _ _ _ hItem
            have hSecond := (eat?_suffix hComma).length_le
            refine Outcome.result_bind_eq_ok.mpr ⟨_, (hReader _ _ _).mpr hItem, ?_⟩
            simp only [hComma]
            exact Outcome.result_bind_eq_ok.mpr ⟨_, (ih (by omega)).mpr hMore, rfl⟩

/-- Each comma is a lexeme, so that the number of lexemes is a bound that no list reaches. -/
theorem commaSeparated_ok_iff
    (hReader : ∀ lexemes value rest,
      (reader lexemes).result = .ok (value, rest) ↔ item lexemes value rest)
    (hShorter : ∀ lexemes value rest, item lexemes value rest → rest.length < lexemes.length)
    {lexemes rest : List Lexeme} {values : List α} :
    (commaSeparated reader lexemes).result = .ok (values, rest) ↔
      Separated item lexemes values rest :=
  separated_ok_iff hReader hShorter (Nat.le_refl _)

end Separated

/-- A reader of expressions gives what the rules derive, nested less than `budget` deep. -/
def ReadsExpressions (budget : Nat) (reader : Reader Expr) : Prop :=
  ∀ lexemes value rest, (reader lexemes).result = .ok (value, rest) ↔
    Derives (.expression lexemes value rest) ∧ value.nesting < budget

/-- A reader of operands gives what the rules derive, nested at most `budget` deep. -/
def ReadsOperands (budget : Nat) (reader : Reader Expr) : Prop :=
  ∀ lexemes value rest, (reader lexemes).result = .ok (value, rest) ↔
    Derives (.operand lexemes value rest) ∧ value.nesting ≤ budget

/-- A reader of groups gives the statements that the rules derive, nested less than `budget`
deep. -/
def ReadsGroups (budget : Nat) (reader : Scope → List Lexeme → Outcome (List Statement)) : Prop :=
  ∀ scope lexemes body, scope.inGroup = true → ((reader scope lexemes).result = .ok body ↔
    Derives (.body true lexemes body) ∧ bodyNesting body < budget)

/-- The arguments of a call are expressions with commas between them. -/
theorem separated_expressions_iff {budget : Nat} {lexemes rest : List Lexeme}
    {values : List Expr} :
    Separated (fun lexemes value rest =>
        Derives (.expression lexemes value rest) ∧ value.nesting < budget) lexemes values rest ↔
      Derives (.arguments lexemes values rest) ∧ argumentsNesting values < budget := by
  constructor
  · intro items
    induction items with
    | last hItem hEnd =>
        exact ⟨.lastArgument hItem.1 hEnd, by simpa [argumentsNesting] using hItem.2⟩
    | next hItem hComma _ ih =>
        exact ⟨.nextArgument hItem.1 hComma ih.1, Nat.max_lt.mpr ⟨hItem.2, ih.2⟩⟩
  · rintro ⟨derivation, hNesting⟩
    induction values generalizing lexemes with
    | nil => cases derivation
    | cons value values ih =>
        obtain ⟨hValueNesting, hMoreNesting⟩ := Nat.max_lt.mp hNesting
        cases derivation with
        | lastArgument hValue hEnd => exact .last ⟨hValue, hValueNesting⟩ hEnd
        | nextArgument hValue hComma hMore =>
            exact .next ⟨hValue, hValueNesting⟩ hComma (ih hMore hMoreNesting)

/-- The nesting of arguments is that of the deepest of them, which is within the budget if all
are. -/
theorem commaSeparated_arguments_iff {budget : Nat} {reader : Reader Expr}
    (hReader : ReadsExpressions budget reader) {lexemes rest : List Lexeme}
    {values : List Expr} :
    (commaSeparated reader lexemes).result = .ok (values, rest) ↔
      Derives (.arguments lexemes values rest) ∧ argumentsNesting values < budget := by
  rw [commaSeparated_ok_iff hReader fun _ _ _ hItem => hItem.1.expression_length_lt]
  exact separated_expressions_iff

/-- Names with properties have no nesting. -/
theorem nesting_members {object : Expr} (hObject : object.nesting = 0) (lexemes : List Lexeme) :
    (members object lexemes).1.nesting = 0 := by
  fun_induction members object lexemes with
  | case1 object _ _ property _ _ rest ih => exact ih (by simp only [Expr.nesting])
  | case2 => exact hObject

/-- A name with its properties takes no level of nesting, however long it is. -/
theorem nesting_members_identifier (name : String) (lexemes : List Lexeme) :
    (members (.identifier name) lexemes).1.nesting = 0 :=
  nesting_members (by simp only [Expr.nesting]) lexemes

section Operand

variable {scope : Scope} {argument : Reader Expr}
  {inside : Scope → List Lexeme → Outcome (List Statement)} {lexeme : Lexeme}
  {rest : List Lexeme}

theorem primary_literal {value : Literal} (hLiteral : literal? lexeme.token = some value) :
    primary scope argument inside (lexeme :: rest) = pure (.literal value, rest) := by
  cases hToken : lexeme.token <;> simp_all [literal?, primary]

theorem primary_parameter {name : String} (hToken : lexeme.token = .parameter name) :
    primary scope argument inside (lexeme :: rest) = pure (members (.identifier name) rest) := by
  simp only [primary, hToken]

/-- A name is taken for a call if an opening parenthesis follows, and only then. -/
theorem primary_name {name : String} (hToken : lexeme.token = .identifier name)
    (hNoCall : eat? (.mark .openParen) rest = none) :
    primary scope argument inside (lexeme :: rest) = pure (members (.identifier name) rest) := by
  simp only [primary, hToken, hNoCall]

/-- A keyword in front of an opening parenthesis is a callee as well as a name is. -/
theorem primary_call {name : String} {arguments : List Lexeme}
    (hName : callee? lexeme.token = some name)
    (hOpen : eat? (.mark .openParen) rest = some arguments) :
    primary scope argument inside (lexeme :: rest) = call argument name arguments := by
  cases hToken : lexeme.token <;> simp_all [callee?, primary]

theorem primary_group (hOpen : lexeme.token = .mark .openParen) :
    primary scope argument inside (lexeme :: rest) = subquery scope inside rest := by
  simp only [primary, hOpen]

def operandFault (lexeme : Lexeme) : Fault :=
  match lexeme.token with
  | .openString _ => .unterminatedString lexeme.start
  | token => .expectedExpression lexeme.start token

def StartsNoOperand (lexeme : Lexeme) (rest : List Lexeme) : Prop :=
  match lexeme.token with
  | .keyword _ => eat? (.mark .openParen) rest = none
  | .openString _ | .symbol _ => True
  | .mark sign => sign ≠ .openParen
  | _ => False

/-- An operand starts with a lexeme in one of five ways, or not at all. -/
theorem operand_cases (lexeme : Lexeme) (rest : List Lexeme) :
    (∃ value, literal? lexeme.token = some value) ∨
    (∃ name, lexeme.token = .parameter name) ∨
    (∃ name, lexeme.token = .identifier name ∧ eat? (.mark .openParen) rest = none) ∨
    (∃ name arguments, callee? lexeme.token = some name ∧
      eat? (.mark .openParen) rest = some arguments) ∨
    lexeme.token = .mark .openParen ∨ StartsNoOperand lexeme rest := by
  unfold StartsNoOperand
  cases hToken : lexeme.token with
  | identifier name | keyword word =>
      cases hOpen : eat? (.mark .openParen) rest <;> simp [literal?, callee?]
  | mark sign => by_cases hSign : sign = .openParen <;> simp [literal?, callee?, hSign]
  | _ => simp [literal?, callee?]

/-- The remaining case of `operand_cases` is a fault at the lexeme. -/
theorem primary_fault (hNone : StartsNoOperand lexeme rest) :
    primary scope argument inside (lexeme :: rest) = .fail (operandFault lexeme) := by
  unfold StartsNoOperand at hNone
  unfold primary operandFault
  cases hToken : lexeme.token with
  | keyword word => simp_all
  | mark sign => cases sign <;> simp_all
  | openString _ | symbol _ => simp only [hToken]
  | _ => simp [hToken] at hNone

end Operand

theorem Derives.arguments_ne_nil {lexemes rest : List Lexeme} {values : List Expr}
    (derivation : Derives (.arguments lexemes values rest)) : values ≠ [] := by
  cases derivation <;> exact List.cons_ne_nil _ _

section Nested

variable {budget : Nat} {scope : Scope} {argument : Reader Expr}
  {inside : Scope → List Lexeme → Outcome (List Statement)}

/-- Either there are no arguments, or there is a list of them whose closing parenthesis may be
missing. -/
theorem call_ok_iff (hArgument : ReadsExpressions budget argument) {name : String}
    {lexemes rest : List Lexeme} {value : Expr} :
    (call argument name lexemes).result = .ok (value, rest) ↔
      (∃ after, eat? (.mark .closeParen) lexemes = some after ∧ value = .call name [] ∧
        rest = after) ∨
      ∃ arguments after, eat? (.mark .closeParen) lexemes = none ∧
        Derives (.arguments lexemes arguments after) ∧ argumentsNesting arguments < budget ∧
        value = .call name arguments ∧ rest = eatOptional (.mark .closeParen) after := by
  unfold call callArguments
  cases hClose : eat? (.mark .closeParen) lexemes with
  | some after =>
      simp only [Outcome.result_bind_eq_ok, Prod.exists, Outcome.result_pure, Except.ok.injEq,
        Prod.mk.injEq, Option.some.injEq, reduceCtorEq, false_and, exists_false, or_false]
      constructor
      · rintro ⟨_, _, ⟨rfl, rfl⟩, rfl, rfl⟩
        exact ⟨_, rfl, rfl, rfl⟩
      · rintro ⟨_, rfl, rfl, rfl⟩
        exact ⟨_, _, ⟨rfl, rfl⟩, rfl, rfl⟩
  | none =>
      simp only [Outcome.result_bind_eq_ok, commaSeparated_arguments_iff hArgument, Prod.exists,
        Outcome.result_pure, Except.ok.injEq, Prod.mk.injEq, reduceCtorEq, false_and, exists_false,
        false_or, true_and]
      constructor
      · rintro ⟨_, _, ⟨arguments, after, ⟨hDerived, hNesting⟩, rfl, rfl⟩, rfl, rfl⟩
        exact ⟨arguments, after, hDerived, hNesting, rfl, rfl⟩
      · rintro ⟨arguments, after, hDerived, hNesting, rfl, rfl⟩
        exact ⟨_, _, ⟨arguments, after, ⟨hDerived, hNesting⟩, rfl, rfl⟩, rfl, rfl⟩

/-- The warning about a group that is not closed has no effect on the result. -/
theorem subquery_result (lexemes : List Lexeme) :
    (subquery scope inside lexemes).result =
      (inside (scope.ofGroup (splitGroup 0 lexemes)) (splitGroup 0 lexemes).content >>=
        fun body => pure (Expr.subquery (body.map Statement.elided),
          (splitGroup 0 lexemes).rest)).result := by
  unfold subquery
  simp only
  split
  · rw [Outcome.result_bind]
    rfl
  · rfl

/-- What is behind a group follows from its parentheses alone, whatever its content is read as. -/
theorem subquery_ok_iff (hInside : ReadsGroups budget inside) {lexemes rest : List Lexeme}
    {value : Expr} :
    (subquery scope inside lexemes).result = .ok (value, rest) ↔
      ∃ body, Derives (.body true (splitGroup 0 lexemes).content body) ∧
        bodyNesting body < budget ∧ value = .subquery body ∧
        rest = (splitGroup 0 lexemes).rest := by
  rw [subquery_result, Outcome.result_bind_eq_ok]
  simp only [Outcome.result_pure, Except.ok.injEq, Prod.mk.injEq]
  constructor
  · rintro ⟨body, hBody, rfl, rfl⟩
    obtain ⟨hDerived, hNesting⟩ := (hInside _ _ _ rfl).mp hBody
    exact ⟨body, hDerived, hNesting, by rw [hDerived.map_elided_group], rfl⟩
  · rintro ⟨body, hDerived, hNesting, rfl, rfl⟩
    exact ⟨body, (hInside _ _ _ rfl).mpr ⟨hDerived, hNesting⟩,
      by rw [hDerived.map_elided_group], rfl⟩

/-- Operands are read as the rules say. -/
theorem primary_ok_iff (hArgument : ReadsExpressions budget argument)
    (hInside : ReadsGroups budget inside) :
    ReadsOperands budget (primary scope argument inside) := by
  intro lexemes value rest
  constructor
  · intro hRead
    cases lexemes with
    | nil => simp [primary] at hRead
    | cons lexeme lexemes =>
        rcases operand_cases lexeme lexemes with ⟨literal, hLiteral⟩ | ⟨name, hToken⟩ |
          ⟨name, hToken, hNoCall⟩ | ⟨name, arguments, hName, hOpen⟩ | hOpen | hNone
        · simp only [primary_literal hLiteral, Outcome.result_pure, Except.ok.injEq,
            Prod.mk.injEq] at hRead
          obtain ⟨rfl, rfl⟩ := hRead
          exact ⟨.literal hLiteral, by simp [Expr.nesting]⟩
        · simp only [primary_parameter hToken, Outcome.result_pure, Except.ok.injEq] at hRead
          obtain ⟨rfl, rfl⟩ := Prod.mk.inj hRead
          exact ⟨.parameter hToken, by simp [nesting_members_identifier]⟩
        · simp only [primary_name hToken hNoCall, Outcome.result_pure, Except.ok.injEq] at hRead
          obtain ⟨rfl, rfl⟩ := Prod.mk.inj hRead
          exact ⟨.name hToken hNoCall, by simp [nesting_members_identifier]⟩
        · rw [primary_call hName hOpen, call_ok_iff hArgument] at hRead
          rcases hRead with ⟨after, hClose, rfl, rfl⟩ |
            ⟨values, after, hMore, hDerived, hNesting, rfl, rfl⟩
          · exact ⟨.emptyCall hName hOpen hClose, by simp [Expr.nesting]⟩
          · refine ⟨.call hName hOpen hMore hDerived, ?_⟩
            rw [Expr.nesting_call hDerived.arguments_ne_nil]
            omega
        · rw [primary_group hOpen, subquery_ok_iff hInside] at hRead
          obtain ⟨body, hDerived, hNesting, rfl, rfl⟩ := hRead
          refine ⟨.group hOpen hDerived, ?_⟩
          simp only [Expr.nesting]
          omega
        · simp [primary_fault hNone] at hRead
  · rintro ⟨derivation, hNesting⟩
    cases derivation with
    | literal hLiteral => rw [primary_literal hLiteral, Outcome.result_pure]
    | parameter hToken => rw [primary_parameter hToken, Outcome.result_pure]
    | name hToken hNoCall => rw [primary_name hToken hNoCall, Outcome.result_pure]
    | emptyCall hName hOpen hClose =>
        rw [primary_call hName hOpen, call_ok_iff hArgument]
        exact .inl ⟨_, hClose, rfl, rfl⟩
    | call hName hOpen hMore hArguments =>
        rw [Expr.nesting_call hArguments.arguments_ne_nil] at hNesting
        rw [primary_call hName hOpen, call_ok_iff hArgument]
        exact .inr ⟨_, _, hMore, hArguments, by omega, rfl, rfl⟩
    | group hOpen hBody =>
        simp only [Expr.nesting] at hNesting
        rw [primary_group hOpen, subquery_ok_iff hInside]
        exact ⟨_, hBody, by omega, rfl, rfl⟩

end Nested

section Operators

variable {budget : Nat} {operand : Reader Expr}

/-- Operands are as deep as the comparison at most, so that one budget serves both. -/
theorem comparison_ok_iff (hOperand : ReadsOperands budget operand) {lexemes rest : List Lexeme}
    {value : Expr} :
    (comparison operand lexemes).result = .ok (value, rest) ↔
      Derives (.comparison lexemes value rest) ∧ value.nesting ≤ budget := by
  constructor
  · intro hRead
    obtain ⟨⟨left, middle⟩, hLeft, hRest⟩ := Outcome.result_bind_eq_ok.mp hRead
    obtain ⟨hLeftDerived, hLeftNesting⟩ := (hOperand _ _ _).mp hLeft
    cases hNext : nextOperator? comparison? middle with
    | none =>
        simp only [hNext, Outcome.result_pure, Except.ok.injEq, Prod.mk.injEq] at hRest
        obtain ⟨rfl, rfl⟩ := hRest
        exact ⟨.single hLeftDerived hNext, hLeftNesting⟩
    | some found =>
        obtain ⟨operator, second⟩ := found
        simp only [hNext] at hRest
        obtain ⟨⟨right, after⟩, hRight, hPure⟩ := Outcome.result_bind_eq_ok.mp hRest
        simp only [Outcome.result_pure, Except.ok.injEq, Prod.mk.injEq] at hPure
        obtain ⟨rfl, rfl⟩ := hPure
        obtain ⟨hRightDerived, hRightNesting⟩ := (hOperand _ _ _).mp hRight
        refine ⟨.compare hLeftDerived hNext hRightDerived, ?_⟩
        simp only [Expr.nesting]
        omega
  · rintro ⟨derivation, hNesting⟩
    cases derivation with
    | single hValue hEnd =>
        exact Outcome.result_bind_eq_ok.mpr
          ⟨_, (hOperand _ _ _).mpr ⟨hValue, hNesting⟩, by simp [hEnd]⟩
    | compare hLeft hOperator hRight =>
        simp only [Expr.nesting] at hNesting
        refine Outcome.result_bind_eq_ok.mpr ⟨_, (hOperand _ _ _).mpr ⟨hLeft, by omega⟩, ?_⟩
        simp only [hOperator]
        exact Outcome.result_bind_eq_ok.mpr ⟨_, (hOperand _ _ _).mpr ⟨hRight, by omega⟩, rfl⟩

/-- What a chain of operators makes of an expression holds that expression. -/
theorem Derives.nesting_le_of_chain {left value : Expr} {lexemes rest : List Lexeme}
    (derivation : Derives (.chain left lexemes value rest)) : left.nesting ≤ value.nesting := by
  generalize hJudgement : Judgement.chain left lexemes value rest = judgement at derivation
  induction derivation generalizing left lexemes with
  | chainEnd _ =>
      obtain ⟨rfl, rfl, rfl, rfl⟩ := Judgement.chain.inj hJudgement
      exact Nat.le_refl _
  | chainStep _ _ _ _ ih =>
      obtain ⟨rfl, rfl, rfl, rfl⟩ := Judgement.chain.inj hJudgement
      have hLater := ih rfl
      simp only [Expr.nesting] at hLater
      omega
  | _ => cases hJudgement

/-- There are no more operators than lexemes, so that no operand is left unread for want of
rounds. -/
theorem logicalTail_ok_iff (hOperand : ReadsOperands budget operand) {rounds : Nat}
    {lexemes rest : List Lexeme} {left value : Expr} (hRounds : lexemes.length ≤ rounds)
    (hLeft : left.nesting ≤ budget) :
    (logicalTail (comparison operand) rounds left lexemes).result = .ok (value, rest) ↔
      Derives (.chain left lexemes value rest) ∧ value.nesting ≤ budget := by
  induction rounds generalizing lexemes left with
  | zero =>
      obtain rfl : lexemes = [] := List.length_eq_zero_iff.mp (by omega)
      constructor
      · intro hRead
        simp only [logicalTail, Outcome.result_pure, Except.ok.injEq, Prod.mk.injEq] at hRead
        obtain ⟨rfl, rfl⟩ := hRead
        exact ⟨.chainEnd rfl, hLeft⟩
      · rintro ⟨derivation, -⟩
        cases derivation with
        | chainEnd _ => rfl
        | chainStep hOperator _ _ => simp [nextOperator?] at hOperator
  | succ rounds ih =>
      unfold logicalTail
      cases hNext : nextOperator? logicalOperator? lexemes with
      | none =>
          constructor
          · intro hRead
            simp only [Outcome.result_pure, Except.ok.injEq, Prod.mk.injEq] at hRead
            obtain ⟨rfl, rfl⟩ := hRead
            exact ⟨.chainEnd hNext, hLeft⟩
          · rintro ⟨derivation, -⟩
            cases derivation with
            | chainEnd _ => rfl
            | chainStep hOperator _ _ => simp [hOperator] at hNext
      | some found =>
          obtain ⟨operator, second⟩ := found
          have hSecond : second.length < lexemes.length := by
            obtain ⟨lexeme, rfl, -⟩ := nextOperator?_eq_some hNext
            exact Nat.lt_succ_self _
          constructor
          · intro hRead
            obtain ⟨⟨right, middle⟩, hRight, hMore⟩ := Outcome.result_bind_eq_ok.mp hRead
            obtain ⟨hDerived, hNesting⟩ := (comparison_ok_iff hOperand).mp hRight
            have hShorter := hDerived.advances.2
            have hBoth : (Expr.binary operator left right).nesting ≤ budget := by
              simp only [Expr.nesting]
              omega
            obtain ⟨hChain, hValue⟩ := (ih (by omega) hBoth).mp hMore
            exact ⟨.chainStep hNext hDerived hChain, hValue⟩
          · rintro ⟨derivation, hValue⟩
            cases derivation with
            | chainEnd hEnd => simp [hNext] at hEnd
            | chainStep hOperator hRight hChain =>
                obtain ⟨rfl, rfl⟩ := Prod.mk.inj (Option.some.inj (hOperator.symm.trans hNext))
                have hShorter := hRight.advances.2
                -- The operands of a chain are no deeper than the chain itself.
                have hBoth := Nat.le_trans hChain.nesting_le_of_chain hValue
                have hOperands := hBoth
                simp only [Expr.nesting] at hOperands
                refine Outcome.result_bind_eq_ok.mpr
                  ⟨_, (comparison_ok_iff hOperand).mpr ⟨hRight, by omega⟩, ?_⟩
                exact (ih (by omega) hBoth).mpr ⟨hChain, hValue⟩

/-- Expressions are read as the rules say. One level of nesting is for the expression itself. -/
theorem logical_ok_iff (hOperand : ReadsOperands budget operand) :
    ReadsExpressions (budget + 1) (logical operand) := by
  intro lexemes value rest
  constructor
  · intro hRead
    obtain ⟨⟨first, middle⟩, hFirst, hChain⟩ := Outcome.result_bind_eq_ok.mp hRead
    obtain ⟨hDerived, hNesting⟩ := (comparison_ok_iff hOperand).mp hFirst
    obtain ⟨hChainDerived, hValue⟩ :=
      (logicalTail_ok_iff hOperand (Nat.le_refl _) hNesting).mp hChain
    exact ⟨.expression hDerived hChainDerived, Nat.lt_succ_of_le hValue⟩
  · rintro ⟨derivation, hValue⟩
    cases derivation with
    | expression hFirst hChain =>
        have hNesting := Nat.le_trans hChain.nesting_le_of_chain (Nat.le_of_lt_succ hValue)
        exact Outcome.result_bind_eq_ok.mpr
          ⟨_, (comparison_ok_iff hOperand).mpr ⟨hFirst, hNesting⟩,
            (logicalTail_ok_iff hOperand (Nat.le_refl _) hNesting).mpr
              ⟨hChain, Nat.le_of_lt_succ hValue⟩⟩

end Operators

end QueryOutline.Grammar
