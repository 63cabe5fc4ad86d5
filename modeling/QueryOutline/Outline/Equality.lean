import QueryOutline.Outline.Basic

/-! Equality of outlines by value: decimals are equal if they are the same number, whatever their
places, and a float that is not a number is equal to nothing. -/

namespace QueryOutline

/-- Equality of literals by value. Literals of different kinds are never equal. -/
def Literal.same : Literal → Literal → Bool
  | .number left, .number right => left.same right
  | .float left, .float right => left.same right
  | left, right => left == right

mutual

/-- Equality of expressions by value. -/
def Expr.same : Expr → Expr → Bool
  | .literal left, .literal right => left.same right
  | .identifier left, .identifier right => left == right
  | .member left leftProperty, .member right rightProperty =>
      left.same right && leftProperty == rightProperty
  | .call left leftArguments, .call right rightArguments =>
      left == right && sameArguments leftArguments rightArguments
  | .binary left leftFirst leftSecond, .binary right rightFirst rightSecond =>
      left == right && leftFirst.same rightFirst && leftSecond.same rightSecond
  | .subquery left, .subquery right => sameBody left right
  | _, _ => false
termination_by structural left => left

def sameArguments : List Expr → List Expr → Bool
  | [], [] => true
  | left :: lefts, right :: rights => left.same right && sameArguments lefts rights
  | _, _ => false
termination_by structural left => left

def Criterion.same : Criterion → Criterion → Bool
  | .mk left leftDirection, .mk right rightDirection =>
      left.same right && leftDirection == rightDirection
termination_by structural left => left

def sameCriteria : List Criterion → List Criterion → Bool
  | [], [] => true
  | left :: lefts, right :: rights => left.same right && sameCriteria lefts rights
  | _, _ => false
termination_by structural left => left

/-- Equality of bounds by value. A number by itself is not equal to a literal. -/
def Bound.same : Bound → Bound → Bool
  | .number left, .number right => left.same right
  | .expression left, .expression right => left.same right
  | _, _ => false
termination_by structural left => left

def Statement.same : Statement → Statement → Bool
  | .forIn left leftCollection, .forIn right rightCollection =>
      left == right && leftCollection == rightCollection
  | .filter left, .filter right => left.same right
  | .omittedFilter, .omittedFilter => true
  | .sort left, .sort right => sameCriteria left right
  | .omittedSort, .omittedSort => true
  | .limit leftOffset leftCount, .limit rightOffset rightCount =>
      leftOffset.same rightOffset && leftCount.same rightCount
  | .letBe left leftValue, .letBe right rightValue => left == right && leftValue.same rightValue
  | _, _ => false
termination_by structural left => left

def sameBody : List Statement → List Statement → Bool
  | [], [] => true
  | left :: lefts, right :: rights => left.same right && sameBody lefts rights
  | _, _ => false
termination_by structural left => left

end

def Query.same (left right : Query) : Bool :=
  sameBody left.body right.body

end QueryOutline
