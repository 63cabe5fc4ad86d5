import QueryOutline.Outline.Basic

/-! How deep an outline is nested. A level is an expression within the parentheses of a call, a
group, or the expression of a clause. A limit holds its bounds without a level of their own. -/

namespace QueryOutline

mutual

/-- The levels of nesting inside an expression. -/
def Expr.nesting : Expr → Nat
  | .literal _ | .identifier _ | .member _ _ | .call _ [] => 0
  | .call _ (argument :: arguments) =>
      1 + max argument.nesting (argumentsNesting arguments)
  | .binary _ left right => max left.nesting right.nesting
  | .subquery body => 1 + bodyNesting body

def argumentsNesting : List Expr → Nat
  | [] => 0
  | argument :: arguments => max argument.nesting (argumentsNesting arguments)

def Criterion.nesting : Criterion → Nat
  | .mk expression _ => expression.nesting

def criteriaNesting : List Criterion → Nat
  | [] => 0
  | criterion :: criteria => max criterion.nesting (criteriaNesting criteria)

def Bound.nesting : Bound → Nat
  | .number _ => 0
  | .expression value => value.nesting

def Statement.nesting : Statement → Nat
  | .forIn _ _ | .omittedFilter | .omittedSort => 0
  | .filter condition => 1 + condition.nesting
  | .sort criteria => 1 + criteriaNesting criteria
  | .limit offset count => max offset.nesting count.nesting
  | .letBe _ value => 1 + value.nesting

def bodyNesting : List Statement → Nat
  | [] => 0
  | statement :: body => max statement.nesting (bodyNesting body)

end

def Query.nesting (query : Query) : Nat :=
  bodyNesting query.body

/-- A call with arguments takes one level more than the deepest of them. -/
theorem Expr.nesting_call {name : String} {arguments : List Expr} (hSome : arguments ≠ []) :
    (Expr.call name arguments).nesting = 1 + argumentsNesting arguments := by
  cases arguments with
  | nil => exact absurd rfl hSome
  | cons argument arguments => simp only [Expr.nesting, argumentsNesting]

/-- A number that stands for itself has no nesting, like the literal it was read from. -/
@[simp]
theorem Bound.nesting_ofExpr (value : Expr) : (Bound.ofExpr value).nesting = value.nesting := by
  unfold Bound.ofExpr
  split <;> simp only [Bound.nesting, Expr.nesting]

/-- The nesting of a body is that of its deepest statement, so that it can be taken part by part. -/
theorem bodyNesting_append (first second : List Statement) :
    bodyNesting (first ++ second) = max (bodyNesting first) (bodyNesting second) := by
  induction first with
  | nil => simp [bodyNesting]
  | cons statement first ih => simp only [List.cons_append, bodyNesting, ih, Nat.max_assoc]

/-- A statement that loses its body loses the levels in it. -/
theorem Statement.nesting_elided_le (statement : Statement) :
    statement.elided.nesting ≤ statement.nesting := by
  cases statement with
  | filter _ | sort _ => exact Nat.zero_le _
  | forIn _ _ | omittedFilter | omittedSort | limit _ _ | letBe _ _ => exact Nat.le_refl _

theorem bodyNesting_map_elided_le (body : List Statement) :
    bodyNesting (body.map Statement.elided) ≤ bodyNesting body := by
  induction body with
  | nil => exact Nat.le_refl _
  | cons statement body ih =>
      have hFirst := statement.nesting_elided_le
      simp only [List.map_cons, bodyNesting]
      omega

end QueryOutline
