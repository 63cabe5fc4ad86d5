import QueryOutline.Proofs.Grammar.Pairing
import QueryOutline.Proofs.Grammar.Statements

/-! What an expression was read from. The lexemes that a reader of expressions takes are those that
its value stands for, each of them once and in order: nothing is lost but the parenthesis that a
call lacks, and what is in a group is taken up to the parenthesis that closes it. -/

namespace QueryOutline

def Operator.tokens : Operator → List Token
  | .and => [.keyword .and, .mark .both]
  | .or => [.keyword .or, .mark .either]
  | .equal => [.mark .equal]
  | .notEqual => [.mark .notEqual]
  | .greaterEqual => [.mark .greaterEqual]
  | .lessEqual => [.mark .lessEqual]
  | .greater => [.mark .greater]
  | .less => [.mark .less]
  | .like => [.keyword .like]
  | .isIn => [.keyword .isIn]

namespace Grammar

open Reading

/-- Read from the front, never more parentheses are closed than opened. -/
def ClosesNoMore (lexemes : List Lexeme) : Prop :=
  ∀ front, front <+: lexemes → markCount .closeParen front ≤ markCount .openParen front

mutual

/-- The lexemes `taken` are what the expression stands for, in order, if `rest` is behind them. -/
inductive Yields : Expr → (taken rest : List Lexeme) → Prop where
  | literal {lexeme : Lexeme} {value : Literal} {rest : List Lexeme}
      (hLiteral : literal? lexeme.token = some value) : Yields (.literal value) [lexeme] rest
  | identifier {lexeme : Lexeme} {name : String} {rest : List Lexeme}
      (hToken : lexeme.token = .identifier name ∨ lexeme.token = .parameter name) :
      Yields (.identifier name) [lexeme] rest
  | member {object : Expr} {property : String} {dot named : Lexeme} {taken rest : List Lexeme}
      (hObject : Yields object taken (dot :: named :: rest)) (hDot : dot.token = .mark .dot)
      (hName : named.token = .identifier property) :
      Yields (.member object property) (taken ++ [dot, named]) rest
  | call {name : String} {arguments : List Expr} {callee opening closing : Lexeme}
      {taken rest : List Lexeme} (hName : callee? callee.token = some name)
      (hOpen : opening.token = .mark .openParen)
      (hArguments : YieldsAll arguments taken (closing :: rest))
      (hClose : closing.token = .mark .closeParen) :
      Yields (.call name arguments) (callee :: opening :: (taken ++ [closing])) rest
  /-- The parenthesis that closes a call is missing only where neither it nor another argument
  follows. -/
  | unclosedCall {name : String} {arguments : List Expr} {callee opening : Lexeme}
      {taken rest : List Lexeme} (hName : callee? callee.token = some name)
      (hOpen : opening.token = .mark .openParen) (hSome : arguments ≠ [])
      (hArguments : YieldsAll arguments taken rest)
      (hEnd : ∀ lexeme ∈ rest.head?,
        lexeme.token ≠ .mark .comma ∧ lexeme.token ≠ .mark .closeParen) :
      Yields (.call name arguments) (callee :: opening :: taken) rest
  | binary {operator : Operator} {left right : Expr} {sign : Lexeme}
      {first second rest : List Lexeme} (hLeft : Yields left first (sign :: (second ++ rest)))
      (hSign : sign.token ∈ operator.tokens) (hRight : Yields right second rest) :
      Yields (.binary operator left right) (first ++ sign :: second) rest
  /-- The content of a group has its parentheses in pairs, so that the next one closes the group. -/
  | group {body : List Statement} {opening closing : Lexeme} {content rest : List Lexeme}
      (hOpen : opening.token = .mark .openParen) (hPaired : Paired content)
      (hClose : closing.token = .mark .closeParen) :
      Yields (.subquery body) (opening :: (content ++ [closing])) rest
  /-- A group that nothing closes goes on up to the end. -/
  | unclosedGroup {body : List Statement} {opening : Lexeme} {content : List Lexeme}
      (hOpen : opening.token = .mark .openParen) (hOpenStill : ClosesNoMore content) :
      Yields (.subquery body) (opening :: content) []

/-- The lexemes `taken` are what the expressions stand for, with single commas between them. -/
inductive YieldsAll : List Expr → (taken rest : List Lexeme) → Prop where
  | none {rest : List Lexeme} : YieldsAll [] [] rest
  | last {value : Expr} {taken rest : List Lexeme} (hValue : Yields value taken rest) :
      YieldsAll [value] taken rest
  | next {value : Expr} {values : List Expr} {comma : Lexeme} {first others rest : List Lexeme}
      (hValue : Yields value first (comma :: (others ++ rest)))
      (hComma : comma.token = .mark .comma) (hSome : values ≠ [])
      (hOthers : YieldsAll values others rest) :
      YieldsAll (value :: values) (first ++ comma :: others) rest

end

section Parts

theorem mem_tokens_of_comparison? {token : Token} {operator : Operator}
    (hOperator : comparison? token = some operator) : token ∈ operator.tokens := by
  unfold comparison? at hOperator
  split at hOperator <;> cases hOperator <;> decide

theorem mem_tokens_of_logicalOperator? {token : Token} {operator : Operator}
    (hOperator : logicalOperator? token = some operator) : token ∈ operator.tokens := by
  unfold logicalOperator? at hOperator
  split at hOperator <;> cases hOperator <;> decide

/-- Each property takes its dot and its name. -/
theorem members_yields {object : Expr} {first lexemes : List Lexeme}
    (hObject : Yields object first lexemes) :
    ∃ taken, lexemes = taken ++ (members object lexemes).2 ∧
      Yields (members object lexemes).1 (first ++ taken) (members object lexemes).2 := by
  fun_induction members object lexemes generalizing first with
  | case1 object _ _ property _ _ rest ih =>
      obtain ⟨taken, hTaken, hYields⟩ := ih (hObject.member rfl rfl)
      refine ⟨_ :: _ :: taken, congrArg (_ :: _ :: ·) hTaken, ?_⟩
      simpa using hYields
  | case2 object lexemes _ => exact ⟨[], rfl, by simpa using hObject⟩

/-- Within a group and `nesting` more parentheses, no more than those are closed. -/
theorem splitGroup_fronts (nesting : Nat) (lexemes : List Lexeme) {front : List Lexeme}
    (hFront : front <+: (splitGroup nesting lexemes).content) :
    markCount .closeParen front ≤ markCount .openParen front + nesting := by
  fun_induction splitGroup nesting lexemes generalizing front with
  | case1 | case3 =>
      obtain rfl := List.prefix_nil.mp hFront
      exact Nat.zero_le _
  | case2 nesting lexeme rest hToken ih | case4 lexeme rest hToken nesting ih =>
      rcases List.prefix_cons_iff.mp hFront with rfl | ⟨front, rfl, hRest⟩
      · exact Nat.zero_le _
      · have hInside := ih hRest
        rw [markCount_cons_self hToken, markCount_cons_ne (by simp [hToken])]
        omega
  | case5 nesting lexeme rest hOpen hClose ih =>
      rcases List.prefix_cons_iff.mp hFront with rfl | ⟨front, rfl, hRest⟩
      · exact Nat.zero_le _
      · rw [markCount_cons_ne hOpen, markCount_cons_ne hClose]
        exact ih hRest

/-- In front of the parenthesis that closes a group, all that were opened in it are closed. -/
theorem splitGroup_total (nesting : Nat) (lexemes : List Lexeme) {closing : Lexeme}
    (hClosing : (splitGroup nesting lexemes).closing = some closing) :
    markCount .openParen (splitGroup nesting lexemes).content + nesting =
      markCount .closeParen (splitGroup nesting lexemes).content := by
  fun_induction splitGroup nesting lexemes with
  | case1 => cases hClosing
  | case3 => rfl
  | case2 nesting lexeme rest hToken ih | case4 lexeme rest hToken nesting ih =>
      have hInside := ih hClosing
      rw [Group.push, markCount_cons_self hToken, markCount_cons_ne (by simp [hToken])]
      omega
  | case5 nesting lexeme rest hOpen hClose ih =>
      rw [Group.push, markCount_cons_ne hOpen, markCount_cons_ne hClose]
      exact ih hClosing

/-- A group takes its parentheses and all that is between them. -/
theorem group_yields {opening : Lexeme} (hOpen : opening.token = .mark .openParen)
    (lexemes : List Lexeme) (body : List Statement) :
    ∃ taken, opening :: lexemes = taken ++ (splitGroup 0 lexemes).rest ∧
      Yields (.subquery body) taken (splitGroup 0 lexemes).rest := by
  have hAll := splitGroup_append 0 lexemes
  have hFronts : ClosesNoMore (splitGroup 0 lexemes).content :=
    fun _ hFront => splitGroup_fronts 0 lexemes hFront
  obtain ⟨hUnclosed, hClosed⟩ := splitGroup_closing 0 lexemes
  cases hClosing : (splitGroup 0 lexemes).closing with
  | none =>
      rw [hUnclosed hClosing, hClosing] at hAll
      rw [hUnclosed hClosing]
      refine ⟨opening :: (splitGroup 0 lexemes).content, ?_, .unclosedGroup hOpen hFronts⟩
      simpa using hAll.symm
  | some closing =>
      rw [hClosing] at hAll
      refine ⟨opening :: ((splitGroup 0 lexemes).content ++ [closing]), ?_,
        .group hOpen ⟨hFronts, splitGroup_total 0 lexemes hClosing⟩ (hClosed closing hClosing)⟩
      simpa using hAll.symm

end Parts

/-- What is taken when the judgement is derived is what its value stands for. -/
def Judgement.Yielding : Judgement → Prop
  | .operand lexemes value rest | .comparison lexemes value rest
  | .expression lexemes value rest => ∃ taken, lexemes = taken ++ rest ∧ Yields value taken rest
  | .chain left lexemes value rest => ∀ first, Yields left first lexemes →
      ∃ taken, lexemes = taken ++ rest ∧ Yields value (first ++ taken) rest
  | .arguments lexemes values rest => (∃ taken, lexemes = taken ++ rest ∧
      YieldsAll values taken rest) ∧ eat? (.mark .comma) rest = none
  | .criteria _ _ _ | .clause _ _ _ _ | .body _ _ _ => True

theorem head?_ne_of_eat?_eq_none {token : Token} {lexemes : List Lexeme}
    (hNone : eat? token lexemes = none) : ∀ lexeme ∈ lexemes.head?, lexeme.token ≠ token := by
  intro lexeme hFirst
  obtain ⟨rest, rfl⟩ := List.head?_eq_some_iff.mp hFirst
  simpa [eat?] using hNone

/-- Every rule takes what its value stands for. -/
theorem Derives.yielding {judgement : Judgement} (derivation : Derives judgement) :
    judgement.Yielding := by
  induction derivation with
  | @literal lexeme value rest hLiteral => exact ⟨[lexeme], rfl, .literal hLiteral⟩
  | @parameter lexeme name rest hToken =>
      have hName : Yields (.identifier name) [lexeme] rest := .identifier (.inr hToken)
      obtain ⟨taken, hTaken, hYields⟩ := members_yields hName
      exact ⟨lexeme :: taken, congrArg (lexeme :: ·) hTaken, hYields⟩
  | @name lexeme name rest hToken _ =>
      have hName : Yields (.identifier name) [lexeme] rest := .identifier (.inl hToken)
      obtain ⟨taken, hTaken, hYields⟩ := members_yields hName
      exact ⟨lexeme :: taken, congrArg (lexeme :: ·) hTaken, hYields⟩
  | @emptyCall lexeme name rest inside after hName hOpen hClose =>
      obtain ⟨opening, rfl, hOpening⟩ := eat?_eq_some hOpen
      obtain ⟨closing, rfl, hClosing⟩ := eat?_eq_some hClose
      exact ⟨[lexeme, opening, closing], rfl, .call hName hOpening .none hClosing⟩
  | @call lexeme name rest inside after arguments hName hOpen _ hArguments ih =>
      obtain ⟨opening, rfl, hOpening⟩ := eat?_eq_some hOpen
      obtain ⟨⟨taken, rfl, hYields⟩, hNoComma⟩ := ih
      unfold eatOptional
      cases hClose : eat? (.mark .closeParen) after with
      | some behind =>
          obtain ⟨closing, rfl, hClosing⟩ := eat?_eq_some hClose
          exact ⟨lexeme :: opening :: (taken ++ [closing]), by simp,
            .call hName hOpening hYields hClosing⟩
      | none =>
          refine ⟨lexeme :: opening :: taken, rfl,
            .unclosedCall hName hOpening hArguments.arguments_ne_nil hYields ?_⟩
          intro next hNext
          exact ⟨head?_ne_of_eat?_eq_none hNoComma next hNext,
            head?_ne_of_eat?_eq_none hClose next hNext⟩
  | group hOpen _ _ => exact group_yields hOpen _ _
  | single _ _ ih => exact ih
  | compare _ hOperator _ ihLeft ihRight =>
      obtain ⟨sign, rfl, hSign⟩ := nextOperator?_eq_some hOperator
      obtain ⟨first, rfl, hLeft⟩ := ihLeft
      obtain ⟨second, rfl, hRight⟩ := ihRight
      exact ⟨first ++ sign :: second, by simp,
        .binary hLeft (mem_tokens_of_comparison? hSign) hRight⟩
  | chainEnd _ =>
      intro first hLeft
      exact ⟨[], rfl, by simpa using hLeft⟩
  | chainStep hOperator _ _ ihRight ihChain =>
      intro first hLeft
      obtain ⟨sign, rfl, hSign⟩ := nextOperator?_eq_some hOperator
      obtain ⟨second, rfl, hRight⟩ := ihRight
      obtain ⟨taken, rfl, hChain⟩ :=
        ihChain _ (.binary hLeft (mem_tokens_of_logicalOperator? hSign) hRight)
      exact ⟨sign :: (second ++ taken), by simp, by simpa using hChain⟩
  | expression _ _ ihFirst ihChain =>
      obtain ⟨first, rfl, hFirst⟩ := ihFirst
      obtain ⟨taken, rfl, hChain⟩ := ihChain first hFirst
      exact ⟨first ++ taken, by simp, hChain⟩
  | lastArgument _ hEnd ih =>
      obtain ⟨taken, rfl, hValue⟩ := ih
      exact ⟨⟨taken, rfl, .last hValue⟩, hEnd⟩
  | nextArgument _ hComma hMore ihValue ihMore =>
      obtain ⟨comma, rfl, hToken⟩ := eat?_eq_some hComma
      obtain ⟨first, rfl, hValue⟩ := ihValue
      obtain ⟨⟨others, rfl, hOthers⟩, hEnd⟩ := ihMore
      exact ⟨⟨first ++ comma :: others, by simp,
        .next hValue hToken hMore.arguments_ne_nil hOthers⟩, hEnd⟩
  | lastCriterion | nextCriterion | forIn | filter | omittedFilter | sort | omittedSort
  | limitCount | limitBoth | letBe | skipped | bodyEnd | bodyStep => trivial

/-- An expression is read from exactly the lexemes that it stands for, in order: what is left behind
it is what stands behind them, whatever the budget and the scope. -/
theorem expression_yields {budget : Nat} {scope : Scope} {lexemes rest : List Lexeme}
    {value : Expr} (hRead : (expression budget scope lexemes).result = .ok (value, rest)) :
    ∃ taken, lexemes = taken ++ rest ∧ Yields value taken rest :=
  (((reads_within budget).1 scope lexemes value rest).mp hRead).1.yielding

/-- A call in front of a clause that lacks its last parenthesis, with a property and a group of its
own among its arguments. -/
theorem expression_yields_unclosed :
    ∃ taken, lexemes "F(a.b, (x (y) z) && @c == null LIMIT" =
        taken ++ [⟨.keyword .limit, 31, 36⟩] ∧
      Yields (.call "F" [.member (.identifier "a") "b", .binary .and (.subquery [])
        (.binary .equal (.identifier "@c") (.literal .null))]) taken
        [⟨.keyword .limit, 31, 36⟩] := by
  have hRead : (expression 3 ⟨3, false, false, 36⟩
      (lexemes "F(a.b, (x (y) z) && @c == null LIMIT")).result =
    .ok (.call "F" [.member (.identifier "a") "b", .binary .and (.subquery [])
      (.binary .equal (.identifier "@c") (.literal .null))], [⟨.keyword .limit, 31, 36⟩]) := rfl
  exact expression_yields hRead

end Grammar

end QueryOutline
