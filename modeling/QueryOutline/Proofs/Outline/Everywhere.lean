import QueryOutline.Outline.Basic

/-! What holds at every node of an outline: at every expression and at every statement, however
deep they stand. -/

namespace QueryOutline

section

variable (onExpr : Expr → Prop) (onStatement : Statement → Prop)

mutual

/-- A property of expressions and one of statements hold at an expression and all below it. -/
def Expr.Everywhere : Expr → Prop
  | .literal value => onExpr (.literal value)
  | .identifier name => onExpr (.identifier name)
  | .member object property => onExpr (.member object property) ∧ object.Everywhere
  | .call name arguments => onExpr (.call name arguments) ∧ ArgumentsEverywhere arguments
  | .binary operator left right =>
      onExpr (.binary operator left right) ∧ left.Everywhere ∧ right.Everywhere
  | .subquery body => onExpr (.subquery body) ∧ BodyEverywhere body

def ArgumentsEverywhere : List Expr → Prop
  | [] => True
  | argument :: arguments => argument.Everywhere ∧ ArgumentsEverywhere arguments

def Criterion.Everywhere : Criterion → Prop
  | .mk expression _ => expression.Everywhere

def CriteriaEverywhere : List Criterion → Prop
  | [] => True
  | criterion :: criteria => criterion.Everywhere ∧ CriteriaEverywhere criteria

/-- The properties hold in a bound. A number by itself is no expression. -/
def Bound.Everywhere : Bound → Prop
  | .number _ => True
  | .expression value => value.Everywhere

def Statement.Everywhere : Statement → Prop
  | .forIn name collection => onStatement (.forIn name collection)
  | .filter condition => onStatement (.filter condition) ∧ condition.Everywhere
  | .omittedFilter => onStatement .omittedFilter
  | .sort criteria => onStatement (.sort criteria) ∧ CriteriaEverywhere criteria
  | .omittedSort => onStatement .omittedSort
  | .limit offset count =>
      onStatement (.limit offset count) ∧ offset.Everywhere ∧ count.Everywhere
  | .letBe name value => onStatement (.letBe name value) ∧ value.Everywhere

def BodyEverywhere : List Statement → Prop
  | [] => True
  | statement :: body => statement.Everywhere ∧ BodyEverywhere body

end

def Query.Everywhere (query : Query) : Prop :=
  BodyEverywhere onExpr onStatement query.body

end

end QueryOutline
