import QueryOutline.Outline.Basic

/-! The shape of outlines at one node: which kinds of expressions stand below an operator, a
property or a limit, and which names stand where. -/

namespace QueryOutline

/-- Whether an operator joins truth values. All others compare. -/
def Operator.isLogical : Operator → Bool
  | .and | .or => true
  | _ => false

def Expr.IsOperand : Expr → Prop
  | .binary _ _ _ => False
  | _ => True

def Expr.IsLogical : Expr → Prop
  | .binary operator _ _ => operator.isLogical = true
  | _ => False

def Expr.IsPath : Expr → Prop
  | .identifier _ | .member _ _ => True
  | _ => False

/-- A number that stands in the query itself. -/
def Expr.IsNumber : Expr → Prop
  | .literal (.number _) => True
  | _ => False

/-- An expression is formed as the grammar asks, with names for variables and parameters and for
functions as given. A comparison has operands on both sides, and logical operators nest to the
left. -/
def Expr.WellShaped (isName isFunction : String → Prop) : Expr → Prop
  | .literal _ | .subquery _ => True
  | .identifier name => isName name
  | .member object _ => object.IsPath
  | .call name _ => isFunction name
  | .binary operator left right =>
      if operator.isLogical then ¬right.IsLogical else left.IsOperand ∧ right.IsOperand

/-- The bounds of a limit are formed as the grammar asks: a count by itself, which is a number if it
was written as one, or an offset and a count. -/
def LimitShaped (offset count : Bound) : Prop :=
  (offset = .number .zero ∧ ∃ value, count = .number value) ∨
  (offset = .number .zero ∧ ∃ value, count = .expression value ∧ value.IsOperand ∧
    ¬value.IsNumber) ∨
  ∃ first second, offset = .expression first ∧ count = .expression second ∧ first.IsOperand ∧
    second.IsOperand

/-- A statement is formed as the grammar asks, with names for its variable as given. -/
def Statement.WellShaped (isVariable : String → Prop) : Statement → Prop
  | .forIn name _ | .letBe name _ => isVariable name
  | .filter _ | .omittedFilter | .omittedSort => True
  | .sort criteria => criteria ≠ []
  | .limit offset count => LimitShaped offset count

theorem Expr.isPath_identifier (name : String) : (Expr.identifier name).IsPath :=
  trivial

theorem Expr.isOperand_of_isPath {value : Expr} (hPath : value.IsPath) : value.IsOperand := by
  cases value with
  | identifier _ | member _ _ => trivial
  | literal _ | call _ _ | binary _ _ _ | subquery _ => exact hPath.elim

/-- Only a number by itself becomes a bound of its own kind. -/
theorem Bound.ofExpr_of_not_isNumber {value : Expr} (hNumber : ¬value.IsNumber) :
    Bound.ofExpr value = .expression value := by
  unfold Bound.ofExpr
  split
  · exact absurd trivial hNumber
  · rfl

/-- One operand makes a limit as the grammar asks. -/
theorem limitShaped_ofExpr {value : Expr} (hOperand : value.IsOperand) :
    LimitShaped (.number .zero) (.ofExpr value) := by
  by_cases hNumber : value.IsNumber
  · unfold Expr.IsNumber at hNumber
    split at hNumber
    · exact .inl ⟨rfl, _, rfl⟩
    · exact hNumber.elim
  · exact .inr (.inl ⟨rfl, value, Bound.ofExpr_of_not_isNumber hNumber, hOperand, hNumber⟩)

end QueryOutline
