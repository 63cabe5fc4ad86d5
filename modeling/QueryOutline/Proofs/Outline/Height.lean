import QueryOutline.Proofs.Outline.Shape

/-! How high an outline is: the longest chain of expressions, statements and queries that stand
below one another. Properties of properties make up a run, and so do logical operators that follow
one another. The nodes that prolong a run are counted with a weight of their own, which is one for
the height itself. -/

namespace QueryOutline

/-- What a property adds to the height of its object, which is `link` if it prolongs a run. -/
def Expr.memberStep (link : Nat) : Expr → Nat
  | .member _ _ => link
  | _ => 1

/-- What an operator adds to the height of its left side, which is `link` if it prolongs a run. -/
def Expr.logicalStep (link : Nat) : Expr → Nat
  | .binary operator _ _ => if operator.isLogical then link else 1
  | _ => 1

section

variable (link : Nat)

mutual

/-- The height of an expression. A group is an expression and a query. -/
def Expr.heightBy : Expr → Nat
  | .literal _ | .identifier _ => 1
  | .member object _ => object.memberStep link + object.heightBy
  | .call _ arguments => 1 + argumentsHeightBy arguments
  | .binary _ left right => max (left.logicalStep link + left.heightBy) (1 + right.heightBy)
  | .subquery body => 2 + bodyHeightBy body

def argumentsHeightBy : List Expr → Nat
  | [] => 0
  | argument :: arguments => max argument.heightBy (argumentsHeightBy arguments)

def Criterion.heightBy : Criterion → Nat
  | .mk expression _ => expression.heightBy

def criteriaHeightBy : List Criterion → Nat
  | [] => 0
  | criterion :: criteria => max criterion.heightBy (criteriaHeightBy criteria)

/-- The height of a bound. A number by itself is no expression. -/
def Bound.heightBy : Bound → Nat
  | .number _ => 0
  | .expression value => value.heightBy

def Statement.heightBy : Statement → Nat
  | .forIn _ _ | .omittedFilter | .omittedSort => 1
  | .filter condition => 1 + condition.heightBy
  | .sort criteria => 1 + criteriaHeightBy criteria
  | .limit offset count => 1 + max offset.heightBy count.heightBy
  | .letBe _ value => 1 + value.heightBy

def bodyHeightBy : List Statement → Nat
  | [] => 0
  | statement :: body => max statement.heightBy (bodyHeightBy body)

end

end

def Query.heightBy (link : Nat) (query : Query) : Nat :=
  1 + bodyHeightBy link query.body

/-- The height of a query with every node counted: the longest chain of queries, statements and
expressions that stand below one another. -/
def Query.height (query : Query) : Nat :=
  query.heightBy 1

/-- The height of a query with every run counted as if it had one link. -/
def Query.levels (query : Query) : Nat :=
  query.heightBy 0

variable {link : Nat}

/-- The weight of a link is the only thing that one more property can cost beyond the base. -/
theorem Expr.memberStep_le (link : Nat) (value : Expr) :
    value.memberStep link ≤ value.memberStep 0 + link := by
  unfold memberStep
  split <;> omega

theorem Expr.logicalStep_le (link : Nat) (value : Expr) :
    value.logicalStep link ≤ value.logicalStep 0 + link := by
  unfold logicalStep
  split
  · split <;> omega
  · omega

/-- With weight one, every operator counts as one node, whatever is on its left. -/
theorem Expr.logicalStep_one (value : Expr) : value.logicalStep 1 = 1 := by
  unfold logicalStep
  split
  · exact ite_self 1
  · rfl

/-- A logical operator on the left makes this one a link of its run. -/
theorem Expr.logicalStep_of_isLogical (link : Nat) {operator : Operator} (left right : Expr)
    (hLogical : operator.isLogical = true) :
    (Expr.binary operator left right).logicalStep link = link :=
  if_pos hLogical

/-- An operand on the left makes this operator the first of a run. -/
theorem Expr.logicalStep_of_isOperand (link : Nat) {value : Expr} (hOperand : value.IsOperand) :
    value.logicalStep link = 1 := by
  cases value with
  | binary _ _ _ => exact hOperand.elim
  | literal _ | identifier _ | member _ _ | call _ _ | subquery _ => rfl

theorem Expr.logicalStep_zero_le (value : Expr) : value.logicalStep 0 ≤ 1 := by
  unfold logicalStep
  split
  · split <;> omega
  · omega

/-- A number that becomes a bound by itself stops being a node. -/
theorem Bound.heightBy_ofExpr_le (link : Nat) (value : Expr) :
    (Bound.ofExpr value).heightBy link ≤ value.heightBy link := by
  unfold Bound.ofExpr
  split
  · exact Nat.zero_le _
  · exact Nat.le_refl _

/-- The height of a body is that of its highest statement, so that it can be taken part by part. -/
theorem bodyHeightBy_append (first second : List Statement) :
    bodyHeightBy link (first ++ second) =
      max (bodyHeightBy link first) (bodyHeightBy link second) := by
  induction first with
  | nil => simp [bodyHeightBy]
  | cons statement first ih => simp only [List.cons_append, bodyHeightBy, ih, Nat.max_assoc]

end QueryOutline
