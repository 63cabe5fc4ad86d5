import QueryOutline.Number.Decimal

/-! The outline of a query: its statements in order, with the expressions they hold. -/

namespace QueryOutline

open Number

/-- A value that stands in the query itself. -/
inductive Literal where
  | string (value : String)
  | number (value : Decimal)
  /-- A number beyond the range of decimals. -/
  | float (value : Binary64)
  | boolean (value : Bool)
  | null
deriving DecidableEq

inductive Operator where
  | and
  | or
  | equal
  | notEqual
  | greaterEqual
  | lessEqual
  | greater
  | less
  | like
  | isIn
deriving DecidableEq, Repr

def Operator.spelling : Operator → String
  | .and => "AND"
  | .or => "OR"
  | .equal => "=="
  | .notEqual => "!="
  | .greaterEqual => ">="
  | .lessEqual => "<="
  | .greater => ">"
  | .less => "<"
  | .like => "LIKE"
  | .isIn => "IN"

inductive Direction where
  | asc
  | desc
deriving DecidableEq, Repr

def Direction.spelling : Direction → String
  | .asc => "ASC"
  | .desc => "DESC"

mutual

inductive Expr where
  | literal (value : Literal)
  /-- A variable, or a bound parameter with its at signs. -/
  | identifier (name : String)
  /-- A property of an object. Dotted names nest to the left. -/
  | member (object : Expr) (property : String)
  /-- A call of a function by its name in capitals. -/
  | call (name : String) (arguments : List Expr)
  | binary (operator : Operator) (left right : Expr)
  /-- A group in parentheses, which is a sequence of statements of its own. -/
  | subquery (body : List Statement)

inductive Criterion where
  | mk (expression : Expr) (direction : Direction)

/-- The offset or the count of a limit. -/
inductive Bound where
  /-- A number by itself: the offset that is not written, or a count that is. -/
  | number (value : Decimal)
  | expression (value : Expr)

/-- A statement. A condition and the keys of a sort may be omitted: the clause was recognised and
stepped over, and nothing but its place is known. -/
inductive Statement where
  | forIn (name collection : String)
  | filter (condition : Expr)
  | omittedFilter
  | sort (criteria : List Criterion)
  | omittedSort
  | limit (offset count : Bound)
  | letBe (name : String) (value : Expr)

end

structure Query where
  body : List Statement

/-- The statement without its condition or its keys. -/
def Statement.elided : Statement → Statement
  | .filter _ => .omittedFilter
  | .sort _ => .omittedSort
  | statement => statement

/-- The bound that a single expression gives. A number stands for itself. -/
def Bound.ofExpr : Expr → Bound
  | .literal (.number value) => .number value
  | value => .expression value

end QueryOutline
