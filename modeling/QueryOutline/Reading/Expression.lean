import QueryOutline.Outline.Basic
import QueryOutline.Reading.Clause
import QueryOutline.Text.Capital

/-! The forms of expressions. What may be nested in an expression is read by readers that are given
as arguments, so that nothing here recurses into a deeper level. -/

namespace QueryOutline.Reading

def logicalOperator? : Token → Option Operator
  | .keyword .and | .mark .both => some .and
  | .keyword .or | .mark .either => some .or
  | _ => none

def comparison? : Token → Option Operator
  | .mark .equal => some .equal
  | .mark .notEqual => some .notEqual
  | .mark .greaterEqual => some .greaterEqual
  | .mark .lessEqual => some .lessEqual
  | .mark .greater => some .greater
  | .mark .less => some .less
  | .keyword .like => some .like
  | .keyword .isIn => some .isIn
  | _ => none

def nextOperator? (operator? : Token → Option Operator) :
    List Lexeme → Option (Operator × List Lexeme)
  | [] => none
  | lexeme :: rest => (operator? lexeme.token).map fun operator => (operator, rest)

/-- Reads items with commas between them. There is at least one item, and there are at most
`rounds` commas. -/
def separated {α : Type} (item : Reader α) : (rounds : Nat) → Reader (List α)
  | 0, lexemes => do
      let (first, rest) ← item lexemes
      pure ([first], rest)
  | rounds + 1, lexemes => do
      let (first, rest) ← item lexemes
      match eat? (.mark .comma) rest with
      | none => pure ([first], rest)
      | some rest =>
          let (more, rest) ← separated item rounds rest
          pure (first :: more, rest)

/-- Reads items with commas between them, as many as there are. Each comma is a lexeme. -/
def commaSeparated {α : Type} (item : Reader α) : Reader (List α) :=
  fun lexemes => separated item lexemes.length lexemes

/-- The properties that follow an expression, each behind a dot, and the lexemes after them. A dot
without a name behind it is left alone. -/
def members (object : Expr) : List Lexeme → Expr × List Lexeme
  | ⟨.mark .dot, _, _⟩ :: ⟨.identifier property, _, _⟩ :: rest =>
      members (.member object property) rest
  | lexemes => (object, lexemes)

/-- Reads the arguments of a call behind its opening parenthesis. The closing one may be
missing. -/
def callArguments (argument : Reader Expr) : Reader (List Expr) := fun lexemes =>
  match eat? (.mark .closeParen) lexemes with
  | some rest => pure ([], rest)
  | none => do
      let (arguments, rest) ← commaSeparated argument lexemes
      pure (arguments, eatOptional (.mark .closeParen) rest)

def call (argument : Reader Expr) (name : String) : Reader Expr := fun lexemes => do
  let (arguments, rest) ← callArguments argument lexemes
  pure (.call name arguments, rest)

/-- Reads a group behind its opening parenthesis. The statements in it are read by `inside`. -/
def subquery (scope : Scope) (inside : Scope → List Lexeme → Outcome (List Statement)) :
    Reader Expr := fun lexemes => do
  let group := splitGroup 0 lexemes
  if group.closing.isNone then .emit .unclosedGroup
  let body ← inside (scope.ofGroup group) group.content
  pure (.subquery (body.map Statement.elided), group.rest)

/-- Reads an expression without operators. A keyword in front of an opening parenthesis is the name
of a function. -/
def primary (scope : Scope) (argument : Reader Expr)
    (inside : Scope → List Lexeme → Outcome (List Statement)) : Reader Expr
  | [] => .fail (.expectedExpression scope.endOffset none)
  | lexeme :: rest =>
      match lexeme.token with
      | .string value => pure (.literal (.string value), rest)
      | .number value => pure (.literal (.number value), rest)
      | .float value => pure (.literal (.float value), rest)
      | .boolean value => pure (.literal (.boolean value), rest)
      | .null => pure (.literal .null, rest)
      | .openString _ => .fail (.unterminatedString lexeme.start)
      | .parameter name => pure (members (.identifier name) rest)
      | .identifier name =>
          match eat? (.mark .openParen) rest with
          | some rest => call argument (Text.capitals name) rest
          | none => pure (members (.identifier name) rest)
      | .keyword word =>
          match eat? (.mark .openParen) rest with
          | some rest => call argument word.spelling rest
          | none => .fail (.expectedExpression lexeme.start lexeme.token)
      | .mark .openParen => subquery scope inside rest
      | .mark _ | .symbol _ => .fail (.expectedExpression lexeme.start lexeme.token)

def comparison (operand : Reader Expr) : Reader Expr := fun lexemes => do
  let (left, rest) ← operand lexemes
  match nextOperator? comparison? rest with
  | none => pure (left, rest)
  | some (operator, rest) =>
      let (right, rest) ← operand rest
      pure (.binary operator left right, rest)

/-- Reads the logical operators that follow an expression, with an operand behind each of them, at
most `rounds` times. All of them bind equally, to the left. -/
def logicalTail (operand : Reader Expr) : (rounds : Nat) → Expr → Reader Expr
  | 0, left, lexemes => pure (left, lexemes)
  | rounds + 1, left, lexemes =>
      match nextOperator? logicalOperator? lexemes with
      | none => pure (left, lexemes)
      | some (operator, rest) => do
          let (right, rest) ← operand rest
          logicalTail operand rounds (.binary operator left right) rest

/-- Reads comparisons with logical operators between them, as many as there are. Each operator is a
lexeme. -/
def logical (operand : Reader Expr) : Reader Expr := fun lexemes => do
  let (first, rest) ← comparison operand lexemes
  logicalTail (comparison operand) rest.length first rest

end QueryOutline.Reading
