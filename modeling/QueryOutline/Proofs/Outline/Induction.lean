import QueryOutline.Proofs.Outline.Everywhere

/-! Induction on outlines. Expressions and statements contain each other, and both stand in lists,
so that a property of the one kind is shown together with a property of the other. -/

namespace QueryOutline

/-- The properties hold at a node if they hold at the nodes right below it. -/
structure HoldsUpwards (onExpr : Expr → Prop) (onStatement : Statement → Prop) : Prop where
  literal : ∀ value, onExpr (.literal value)
  identifier : ∀ name, onExpr (.identifier name)
  member : ∀ object property, onExpr object → onExpr (.member object property)
  call : ∀ name arguments, (∀ argument ∈ arguments, onExpr argument) → onExpr (.call name arguments)
  binary : ∀ operator left right, onExpr left → onExpr right → onExpr (.binary operator left right)
  subquery : ∀ body, (∀ statement ∈ body, onStatement statement) → onExpr (.subquery body)
  forIn : ∀ name collection, onStatement (.forIn name collection)
  filter : ∀ condition, onExpr condition → onStatement (.filter condition)
  omittedFilter : onStatement .omittedFilter
  sort : ∀ criteria, (∀ key order, .mk key order ∈ criteria → onExpr key) →
    onStatement (.sort criteria)
  omittedSort : onStatement .omittedSort
  limit : ∀ offset count, (∀ value, offset = .expression value → onExpr value) →
    (∀ value, count = .expression value → onExpr value) → onStatement (.limit offset count)
  letBe : ∀ name value, onExpr value → onStatement (.letBe name value)

namespace HoldsUpwards

variable {onExpr : Expr → Prop} {onStatement : Statement → Prop}

mutual

/-- One case for each kind of expression, with what holds of its parts. -/
theorem expr (hUp : HoldsUpwards onExpr onStatement) (value : Expr) : onExpr value := by
  cases value with
  | literal value => exact hUp.literal value
  | identifier name => exact hUp.identifier name
  | member object property => exact hUp.member object property (expr hUp object)
  | call name arguments => exact hUp.call name arguments (expr_arguments hUp arguments)
  | binary operator left right =>
      exact hUp.binary operator left right (expr hUp left) (expr hUp right)
  | subquery body => exact hUp.subquery body (statement_body hUp body)

theorem expr_arguments (hUp : HoldsUpwards onExpr onStatement) (arguments : List Expr) :
    ∀ argument ∈ arguments, onExpr argument := by
  cases arguments with
  | nil => simp
  | cons argument arguments =>
      exact List.forall_mem_cons.mpr ⟨expr hUp argument, expr_arguments hUp arguments⟩

theorem expr_criterion (hUp : HoldsUpwards onExpr onStatement) (criterion : Criterion) :
    ∀ key order, .mk key order = criterion → onExpr key := by
  cases criterion with
  | mk expression direction =>
      intro key order hSame
      exact (Criterion.mk.inj hSame).1 ▸ expr hUp expression

theorem expr_criteria (hUp : HoldsUpwards onExpr onStatement) (criteria : List Criterion) :
    ∀ key order, .mk key order ∈ criteria → onExpr key := by
  cases criteria with
  | nil => simp
  | cons criterion criteria =>
      intro key order hMember
      rcases List.mem_cons.mp hMember with hFirst | hLater
      · exact expr_criterion hUp criterion key order hFirst
      · exact expr_criteria hUp criteria key order hLater

/-- A number that is a bound by itself is no expression, so that nothing is to be shown of it. -/
theorem expr_bound (hUp : HoldsUpwards onExpr onStatement) (bound : Bound) :
    ∀ value, bound = .expression value → onExpr value := by
  cases bound with
  | number number => simp
  | expression value =>
      intro other hSame
      exact Bound.expression.inj hSame ▸ expr hUp value

/-- A statement holds its expressions, and through them its groups, whose statements are smaller. -/
theorem statement (hUp : HoldsUpwards onExpr onStatement) (statement : Statement) :
    onStatement statement := by
  cases statement with
  | forIn name collection => exact hUp.forIn name collection
  | filter condition => exact hUp.filter condition (expr hUp condition)
  | omittedFilter => exact hUp.omittedFilter
  | sort criteria => exact hUp.sort criteria (expr_criteria hUp criteria)
  | omittedSort => exact hUp.omittedSort
  | limit offset count =>
      exact hUp.limit offset count (expr_bound hUp offset) (expr_bound hUp count)
  | letBe name value => exact hUp.letBe name value (expr hUp value)

theorem statement_body (hUp : HoldsUpwards onExpr onStatement) (body : List Statement) :
    ∀ statement ∈ body, onStatement statement := by
  cases body with
  | nil => simp
  | cons first body =>
      exact List.forall_mem_cons.mpr ⟨statement hUp first, statement_body hUp body⟩

end

end HoldsUpwards

section Everywhere

variable {onExpr : Expr → Prop} {onStatement : Statement → Prop}

theorem argumentsEverywhere_iff {arguments : List Expr} :
    ArgumentsEverywhere onExpr onStatement arguments ↔
      ∀ argument ∈ arguments, argument.Everywhere onExpr onStatement := by
  induction arguments with
  | nil => simp [ArgumentsEverywhere]
  | cons argument arguments ih => simp [ArgumentsEverywhere, ih]

theorem criteriaEverywhere_iff {criteria : List Criterion} :
    CriteriaEverywhere onExpr onStatement criteria ↔
      ∀ key order, .mk key order ∈ criteria → key.Everywhere onExpr onStatement := by
  induction criteria with
  | nil => simp [CriteriaEverywhere]
  | cons criterion criteria ih =>
      obtain ⟨expression, direction⟩ := criterion
      simp [CriteriaEverywhere, Criterion.Everywhere, or_imp, forall_and, ih]

theorem Bound.everywhere_iff {bound : Bound} :
    bound.Everywhere onExpr onStatement ↔
      ∀ value, bound = .expression value → value.Everywhere onExpr onStatement := by
  cases bound <;> simp [Bound.Everywhere]

/-- A body has the properties everywhere if each of its statements has. -/
theorem bodyEverywhere_iff {body : List Statement} :
    BodyEverywhere onExpr onStatement body ↔
      ∀ statement ∈ body, statement.Everywhere onExpr onStatement := by
  induction body with
  | nil => simp [BodyEverywhere]
  | cons statement body ih => simp [BodyEverywhere, ih]

/-- What follows from the properties at each node holds everywhere if they do. -/
theorem everywhere_imp {onExpr' : Expr → Prop} {onStatement' : Statement → Prop}
    (hExpr : ∀ value, onExpr value → onExpr' value)
    (hStatement : ∀ statement, onStatement statement → onStatement' statement) :
    HoldsUpwards
      (fun value => value.Everywhere onExpr onStatement → value.Everywhere onExpr' onStatement')
      (fun statement =>
        statement.Everywhere onExpr onStatement → statement.Everywhere onExpr' onStatement') where
  literal _ hValue := hExpr _ hValue
  identifier _ hValue := hExpr _ hValue
  member _ _ hObject hValue := ⟨hExpr _ hValue.1, hObject hValue.2⟩
  call _ _ hArguments hValue := by
    refine ⟨hExpr _ hValue.1, argumentsEverywhere_iff.mpr fun argument hMember => ?_⟩
    exact hArguments argument hMember (argumentsEverywhere_iff.mp hValue.2 argument hMember)
  binary _ _ _ hLeft hRight hValue := ⟨hExpr _ hValue.1, hLeft hValue.2.1, hRight hValue.2.2⟩
  subquery _ hBody hValue := by
    refine ⟨hExpr _ hValue.1, bodyEverywhere_iff.mpr fun statement hMember => ?_⟩
    exact hBody statement hMember (bodyEverywhere_iff.mp hValue.2 statement hMember)
  forIn _ _ hValue := hStatement _ hValue
  filter _ hCondition hValue := ⟨hStatement _ hValue.1, hCondition hValue.2⟩
  omittedFilter hValue := hStatement _ hValue
  sort _ hCriteria hValue := by
    refine ⟨hStatement _ hValue.1, criteriaEverywhere_iff.mpr fun key order hMember => ?_⟩
    exact hCriteria key order hMember (criteriaEverywhere_iff.mp hValue.2 key order hMember)
  omittedSort hValue := hStatement _ hValue
  limit _ _ hOffset hCount hValue := by
    refine ⟨hStatement _ hValue.1, Bound.everywhere_iff.mpr fun value hSame => ?_,
      Bound.everywhere_iff.mpr fun value hSame => ?_⟩
    · exact hOffset value hSame (Bound.everywhere_iff.mp hValue.2.1 value hSame)
    · exact hCount value hSame (Bound.everywhere_iff.mp hValue.2.2 value hSame)
  letBe _ _ hBound hValue := ⟨hStatement _ hValue.1, hBound hValue.2⟩

/-- Weaker properties hold at the same nodes. -/
theorem Query.Everywhere.imp {onExpr' : Expr → Prop} {onStatement' : Statement → Prop}
    {query : Query} (hQuery : query.Everywhere onExpr onStatement)
    (hExpr : ∀ value, onExpr value → onExpr' value)
    (hStatement : ∀ statement, onStatement statement → onStatement' statement) :
    query.Everywhere onExpr' onStatement' := by
  apply bodyEverywhere_iff.mpr
  intro statement hMember
  exact (everywhere_imp hExpr hStatement).statement statement
    (bodyEverywhere_iff.mp hQuery statement hMember)

end Everywhere

end QueryOutline
