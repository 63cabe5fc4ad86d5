import QueryOutline.Proofs.Grammar.Elision
import QueryOutline.Proofs.Grammar.Streams
import QueryOutline.Proofs.Outline.Induction
import QueryOutline.Proofs.Outline.Shape

/-! What the rules say about every node of what they derive. It is enough to look at one rule at a
time, with what the rules say about the kinds of its parts. -/

namespace QueryOutline

section Everywhere

variable {onExpr : Expr → Prop} {onStatement : Statement → Prop}

theorem bodyEverywhere_append {first second : List Statement}
    (hFirst : BodyEverywhere onExpr onStatement first)
    (hSecond : BodyEverywhere onExpr onStatement second) :
    BodyEverywhere onExpr onStatement (first ++ second) := by
  rw [bodyEverywhere_iff] at *
  exact List.forall_mem_append.mpr ⟨hFirst, hSecond⟩

/-- A bound that was a number by itself has no node. -/
theorem everywhere_ofExpr {value : Expr} (hValue : value.Everywhere onExpr onStatement) :
    (Bound.ofExpr value).Everywhere onExpr onStatement := by
  unfold Bound.ofExpr
  split
  · trivial
  · exact hValue

end Everywhere

namespace Grammar

open Reading

/-- The properties of nodes follow from the rule that forms the node, for lexemes with the property
`stream`. Where a property says nothing about a form, nothing is asked. -/
structure Local (stream : List Lexeme → Prop) (onExpr : Expr → Prop)
    (onStatement : Statement → Prop) : Prop where
  literal : ∀ value, onExpr (.literal value) := by intros; trivial
  parameter : ∀ {lexeme rest name}, stream (lexeme :: rest) → lexeme.token = .parameter name →
    onExpr (.identifier name) := by intros; trivial
  name : ∀ {lexeme rest name}, stream (lexeme :: rest) → lexeme.token = .identifier name →
    onExpr (.identifier name) := by intros; trivial
  member : ∀ {object} property, object.IsPath → onExpr (.member object property) := by
    intros; trivial
  call : ∀ {lexeme rest name} arguments, stream (lexeme :: rest) →
    callee? lexeme.token = some name → onExpr (.call name arguments) := by intros; trivial
  group : ∀ {body}, (∀ statement ∈ body, ¬statement.HasBody) → onExpr (.subquery body) := by
    intros; trivial
  compare : ∀ {operator left right}, operator.isLogical = false → left.IsOperand →
    right.IsOperand → onExpr (.binary operator left right) := by intros; trivial
  link : ∀ {operator right} left, operator.isLogical = true → ¬right.IsLogical →
    onExpr (.binary operator left right) := by intros; trivial
  forIn : ∀ {lexeme named rest name} collection, stream (lexeme :: named :: rest) →
    lexeme.token = .keyword .forIn → named.token = .identifier name →
    onStatement (.forIn name collection) := by intros; trivial
  filter : ∀ condition, onStatement (.filter condition) := by intros; trivial
  omittedFilter : onStatement .omittedFilter := by trivial
  sort : ∀ {criteria}, criteria ≠ [] → onStatement (.sort criteria) := by intros; trivial
  omittedSort : onStatement .omittedSort := by trivial
  limit : ∀ {offset count}, LimitShaped offset count → onStatement (.limit offset count) := by
    intros; trivial
  letBe : ∀ {lexeme named rest name} value, stream (lexeme :: named :: rest) →
    lexeme.token = .keyword .letBe → named.token = .identifier name →
    onStatement (.letBe name value) := by intros; trivial

theorem comparison?_isLogical {token : Token} {operator : Operator}
    (hOperator : comparison? token = some operator) : operator.isLogical = false := by
  unfold comparison? at hOperator
  split at hOperator <;> cases hOperator <;> rfl

theorem logicalOperator?_isLogical {token : Token} {operator : Operator}
    (hOperator : logicalOperator? token = some operator) : operator.isLogical = true := by
  unfold logicalOperator? at hOperator
  split at hOperator <;> cases hOperator <;> rfl

/-- What names a function is no dot, so that the parenthesis behind it does not stand behind one. -/
theorem callee?_ne_dot {token : Token} {name : String} (hName : callee? token = some name) :
    token ≠ .mark .dot := by
  intro hDot
  subst hDot
  cases hName

theorem members_isPath {object : Expr} (hObject : object.IsPath) (lexemes : List Lexeme) :
    (members object lexemes).1.IsPath := by
  fun_induction members object lexemes with
  | case1 _ _ _ _ _ _ _ ih => exact ih trivial
  | case2 => exact hObject

/-- What stands in an operand's place is no operator. -/
theorem Derives.isOperand {lexemes rest : List Lexeme} {value : Expr}
    (derivation : Derives (.operand lexemes value rest)) : value.IsOperand := by
  cases derivation with
  | literal | emptyCall | call | group => trivial
  | parameter | name => exact Expr.isOperand_of_isPath (members_isPath (Expr.isPath_identifier _) _)

/-- What stands in a comparison's place is no logical operator. -/
theorem Derives.not_isLogical {lexemes rest : List Lexeme} {value : Expr}
    (derivation : Derives (.comparison lexemes value rest)) : ¬value.IsLogical := by
  cases derivation with
  | single hOperand _ =>
      intro hLogical
      have hOperand := hOperand.isOperand
      cases value with
      | binary _ _ _ => exact hOperand
      | literal _ | identifier _ | member _ _ | call _ _ | subquery _ => exact hLogical
  | compare _ hOperator _ =>
      obtain ⟨lexeme, -, hFound⟩ := nextOperator?_eq_some hOperator
      simp [Expr.IsLogical, comparison?_isLogical hFound]

/-- The rules know no sort without keys. -/
theorem Derives.criteria_ne_nil {lexemes rest : List Lexeme} {values : List Criterion}
    (derivation : Derives (.criteria lexemes values rest)) : values ≠ [] := by
  cases derivation <;> exact List.cons_ne_nil _ _

section

variable {stream : List Lexeme → Prop} {onExpr : Expr → Prop} {onStatement : Statement → Prop}

/-- Each property is one more node on top, with the rule for properties. -/
theorem Local.members (hLocal : Local stream onExpr onStatement) {object : Expr}
    (hPath : object.IsPath) (hObject : object.Everywhere onExpr onStatement)
    (lexemes : List Lexeme) : (members object lexemes).1.Everywhere onExpr onStatement := by
  fun_induction Reading.members object lexemes with
  | case1 _ _ _ property _ _ _ ih => exact ih trivial ⟨hLocal.member property hPath, hObject⟩
  | case2 => exact hObject

/-- The properties hold at all nodes of what is derived, and what is left has the property of
lexemes again. -/
def Judgement.Holds (stream : List Lexeme → Prop) (onExpr : Expr → Prop)
    (onStatement : Statement → Prop) : Judgement → Prop
  | .operand lexemes value rest | .comparison lexemes value rest
  | .expression lexemes value rest =>
      stream lexemes → value.Everywhere onExpr onStatement ∧ stream rest
  | .chain left lexemes value rest => stream lexemes → left.Everywhere onExpr onStatement →
      value.Everywhere onExpr onStatement ∧ stream rest
  | .arguments lexemes values rest =>
      stream lexemes → ArgumentsEverywhere onExpr onStatement values ∧ stream rest
  | .criteria lexemes values rest =>
      stream lexemes → CriteriaEverywhere onExpr onStatement values ∧ stream rest
  | .clause _ lexemes value rest =>
      stream lexemes → BodyEverywhere onExpr onStatement value.toList ∧ stream rest
  | .body _ lexemes values => stream lexemes → BodyEverywhere onExpr onStatement values

/-- What holds rule by rule holds at every node. -/
theorem Derives.everywhere (hStream : Hereditary stream) (hLocal : Local stream onExpr onStatement)
    {judgement : Judgement} (derivation : Derives judgement) :
    judgement.Holds stream onExpr onStatement := by
  induction derivation with
  | @literal lexeme value rest hLiteral =>
      intro hLexemes
      refine ⟨hLocal.literal value, hStream.tail ?_ hLexemes⟩
      intro hToken
      simp [hToken, literal?] at hLiteral
  | parameter hToken =>
      intro hLexemes
      have hRest := hStream.tail (by simp [hToken]) hLexemes
      exact ⟨hLocal.members (Expr.isPath_identifier _) (hLocal.parameter hLexemes hToken) _,
        hStream.members _ hRest⟩
  | name hToken _ =>
      intro hLexemes
      have hRest := hStream.tail (by simp [hToken]) hLexemes
      exact ⟨hLocal.members (Expr.isPath_identifier _) (hLocal.name hLexemes hToken) _,
        hStream.members _ hRest⟩
  | emptyCall hName hOpen hClose =>
      intro hLexemes
      have hRest := hStream.tail (callee?_ne_dot hName) hLexemes
      have hInside := hStream.eat? (by simp) hOpen hRest
      exact ⟨⟨hLocal.call _ hLexemes hName, trivial⟩, hStream.eat? (by simp) hClose hInside⟩
  | call hName hOpen _ _ ih =>
      intro hLexemes
      have hRest := hStream.tail (callee?_ne_dot hName) hLexemes
      obtain ⟨hArguments, hAfter⟩ := ih (hStream.eat? (by simp) hOpen hRest)
      exact ⟨⟨hLocal.call _ hLexemes hName, hArguments⟩, hStream.eatOptional (by simp) hAfter⟩
  | group hOpen hBody ih =>
      intro hLexemes
      have hRest := hStream.tail (by simp [hOpen]) hLexemes
      exact ⟨⟨hLocal.group hBody.body_conforms, ih (hStream.content hRest)⟩, hStream.behind hRest⟩
  | single _ _ ih => exact ih
  | compare hLeft hOperator hRight ihLeft ihRight =>
      intro hLexemes
      obtain ⟨lexeme, -, hFound⟩ := nextOperator?_eq_some hOperator
      obtain ⟨hLeftHolds, hMiddle⟩ := ihLeft hLexemes
      obtain ⟨hRightHolds, hRest⟩ := ihRight (hStream.nextOperator? rfl hOperator hMiddle)
      exact ⟨⟨hLocal.compare (comparison?_isLogical hFound) hLeft.isOperand hRight.isOperand,
        hLeftHolds, hRightHolds⟩, hRest⟩
  | chainEnd _ => exact fun hLexemes hValue => ⟨hValue, hLexemes⟩
  | chainStep hOperator hRight _ ihRight ihChain =>
      intro hLexemes hLeft
      obtain ⟨lexeme, -, hFound⟩ := nextOperator?_eq_some hOperator
      obtain ⟨hRightHolds, hMiddle⟩ := ihRight (hStream.nextOperator? rfl hOperator hLexemes)
      exact ihChain hMiddle ⟨hLocal.link _ (logicalOperator?_isLogical hFound) hRight.not_isLogical,
        hLeft, hRightHolds⟩
  | expression _ _ ihFirst ihChain =>
      intro hLexemes
      obtain ⟨hFirst, hMiddle⟩ := ihFirst hLexemes
      exact ihChain hMiddle hFirst
  | lastArgument _ _ ih =>
      intro hLexemes
      obtain ⟨hValue, hRest⟩ := ih hLexemes
      exact ⟨⟨hValue, trivial⟩, hRest⟩
  | nextArgument _ hComma _ ihValue ihMore =>
      intro hLexemes
      obtain ⟨hValue, hMiddle⟩ := ihValue hLexemes
      obtain ⟨hValues, hRest⟩ := ihMore (hStream.eat? (by simp) hComma hMiddle)
      exact ⟨⟨hValue, hValues⟩, hRest⟩
  | lastCriterion _ hOrder _ ih =>
      intro hLexemes
      obtain ⟨hValue, hMiddle⟩ := ih hLexemes
      exact ⟨⟨hValue, trivial⟩, hStream.direction hOrder hMiddle⟩
  | nextCriterion _ hOrder hComma _ ihValue ihMore =>
      intro hLexemes
      obtain ⟨hValue, hMiddle⟩ := ihValue hLexemes
      have hSecond := hStream.eat? (by simp) hComma (hStream.direction hOrder hMiddle)
      obtain ⟨hValues, hRest⟩ := ihMore hSecond
      exact ⟨⟨hValue, hValues⟩, hRest⟩
  | forIn hToken hName hSource hCollection =>
      intro hLexemes
      have hMiddle := hStream.tail (by simp [hName]) (hStream.tail (by simp [hToken]) hLexemes)
      have hBehind := hSource ▸ hStream.eatOptional (by simp) hMiddle
      refine ⟨⟨hLocal.forIn _ hLexemes hToken hName, trivial⟩, hStream.tail ?_ hBehind⟩
      intro hDot
      simp [hDot, collection?] at hCollection
  | filter hToken _ ih =>
      intro hLexemes
      obtain ⟨hCondition, hRest⟩ := ih (hStream.tail (by simp [hToken]) hLexemes)
      exact ⟨⟨⟨hLocal.filter _, hCondition⟩, trivial⟩, hRest⟩
  | omittedFilter _ =>
      exact fun hLexemes => ⟨⟨hLocal.omittedFilter, trivial⟩, hStream.skipped hLexemes⟩
  | sort hToken hCriteria ih =>
      intro hLexemes
      obtain ⟨hKeys, hRest⟩ := ih (hStream.tail (by simp [hToken]) hLexemes)
      exact ⟨⟨⟨hLocal.sort hCriteria.criteria_ne_nil, hKeys⟩, trivial⟩, hRest⟩
  | omittedSort _ =>
      exact fun hLexemes => ⟨⟨hLocal.omittedSort, trivial⟩, hStream.skipped hLexemes⟩
  | limitCount hToken hCount _ ih =>
      intro hLexemes
      obtain ⟨hHolds, hRest⟩ := ih (hStream.tail (by simp [hToken]) hLexemes)
      exact ⟨⟨⟨hLocal.limit (limitShaped_ofExpr hCount.isOperand), trivial,
        everywhere_ofExpr hHolds⟩, trivial⟩, hRest⟩
  | limitBoth hToken hOffset hComma hCount ihOffset ihCount =>
      intro hLexemes
      obtain ⟨hFirst, hMiddle⟩ := ihOffset (hStream.tail (by simp [hToken]) hLexemes)
      obtain ⟨hSecond, hRest⟩ := ihCount (hStream.eat? (by simp) hComma hMiddle)
      have hShaped := hLocal.limit
        (.inr (.inr ⟨_, _, rfl, rfl, hOffset.isOperand, hCount.isOperand⟩))
      exact ⟨⟨⟨hShaped, hFirst, hSecond⟩, trivial⟩, hRest⟩
  | letBe hToken hName _ ih =>
      intro hLexemes
      have hMiddle := hStream.tail (by simp [hName]) (hStream.tail (by simp [hToken]) hLexemes)
      obtain ⟨hValue, hRest⟩ := ih (hStream.eatOptional (by simp) hMiddle)
      exact ⟨⟨⟨hLocal.letBe _ hLexemes hToken hName, hValue⟩, trivial⟩, hRest⟩
  | skipped _ => exact fun hLexemes => ⟨trivial, hStream.skipped hLexemes⟩
  | bodyEnd => exact fun _ => trivial
  | bodyStep _ _ ihClause ihBody =>
      intro hLexemes
      obtain ⟨hStatement, hRest⟩ := ihClause hLexemes
      exact bodyEverywhere_append hStatement (ihBody hRest)

end

end Grammar

end QueryOutline
