import QueryOutline.Reading.Expression

/-! The clauses of a query. Their expressions are read by readers that are given as arguments. -/

namespace QueryOutline.Reading

def variableName (scope : Scope) : Reader String
  | ⟨.identifier name, _, _⟩ :: rest => pure (name, rest)
  | lexemes => .fail (.expectedVariable (scope.offset lexemes))

/-- The name of a collection that a token stands for. A number is a name, too. -/
def collection? : Token → Option String
  | .identifier name | .parameter name => some name
  | .number value => some value.text
  | .float value => some value.text
  | _ => none

def collectionName (scope : Scope) : Reader String := fun lexemes =>
  match lexemes with
  | [] => .fail (.expectedCollection scope.endOffset)
  | lexeme :: rest =>
      match collection? lexeme.token with
      | some name => pure (name, rest)
      | none => .fail (.expectedCollection lexeme.start)

def forClause (scope : Scope) : Reader Statement := fun lexemes => do
  let (name, rest) ← variableName scope lexemes
  let (collection, rest) ← collectionName scope (eatOptional (.keyword .isIn) rest)
  pure (.forIn name collection, rest)

def filterClause (scope : Scope) (expression : Reader Expr) : Reader Statement := fun lexemes =>
  if scope.omitsBodies then do
    let rest ← skipClause scope lexemes
    pure (.omittedFilter, rest)
  else do
    let (condition, rest) ← expression lexemes
    pure (.filter condition, rest)

/-- The direction behind a sort key, which is ascending if none is given, and the lexemes after
it. -/
def direction (lexemes : List Lexeme) : Direction × List Lexeme :=
  match eat? (.keyword .desc) lexemes with
  | some rest => (.desc, rest)
  | none => (.asc, eatOptional (.keyword .asc) lexemes)

def criterion (expression : Reader Expr) : Reader Criterion := fun lexemes => do
  let (key, rest) ← expression lexemes
  let (order, rest) := direction rest
  pure (.mk key order, rest)

def sortClause (scope : Scope) (expression : Reader Expr) : Reader Statement := fun lexemes =>
  if scope.omitsBodies then do
    let rest ← skipClause scope lexemes
    pure (.omittedSort, rest)
  else do
    let (criteria, rest) ← commaSeparated (criterion expression) lexemes
    pure (.sort criteria, rest)

/-- Reads a limit behind its keyword: a count, or an offset and a count. -/
def limitClause (operand : Reader Expr) : Reader Statement := fun lexemes => do
  let (first, rest) ← operand lexemes
  match eat? (.mark .comma) rest with
  | none => pure (.limit (.number .zero) (.ofExpr first), rest)
  | some rest =>
      let (second, rest) ← operand rest
      pure (.limit (.expression first) (.expression second), rest)

def letClause (scope : Scope) (expression : Reader Expr) : Reader Statement := fun lexemes => do
  let (name, rest) ← variableName scope lexemes
  let (value, rest) ← expression (eatOptional (.mark .assign) rest)
  pure (.letBe name value, rest)

/-- Reads a clause that gives a statement. -/
def known (read : Reader Statement) : Reader (Option Statement) := fun lexemes => do
  let (statement, rest) ← read lexemes
  pure (some statement, rest)

/-- Steps over a clause that starts with this lexeme. -/
def unknown (scope : Scope) (lexeme : Lexeme) : Reader (Option Statement) := fun lexemes => do
  .emit (.skipping lexeme.token lexeme.start)
  let rest ← skipClause scope lexemes
  pure (none, rest)

/-- Reads a clause that starts with this lexeme. Only five kinds of clauses give a statement, and
all else is stepped over. -/
def clause (scope : Scope) (expression operand : Reader Expr) (lexeme : Lexeme) :
    Reader (Option Statement) :=
  match lexeme.token with
  | .keyword .forIn => known (forClause scope)
  | .keyword .filter => known (filterClause scope expression)
  | .keyword .sort => known (sortClause scope expression)
  | .keyword .limit => known (limitClause operand)
  | .keyword .letBe => known (letClause scope expression)
  | _ => unknown scope lexeme

/-- Reads the clauses of a sequence of lexemes, at most `rounds` of them. -/
def clauses (scope : Scope) (expression operand : Reader Expr) :
    (rounds : Nat) → List Lexeme → Outcome (List Statement)
  | _, [] | 0, _ => pure []
  | rounds + 1, lexeme :: rest => do
      let (statement, rest) ← clause scope expression operand lexeme rest
      let statements ← clauses scope expression operand rounds rest
      pure (statement.toList ++ statements)

/-- Reads all statements of a sequence of lexemes. Each clause takes at least one lexeme. -/
def statements (scope : Scope) (expression : Reader Expr)
    (inside : Scope → List Lexeme → Outcome (List Statement)) (lexemes : List Lexeme) :
    Outcome (List Statement) :=
  clauses scope expression (primary scope expression inside) lexemes.length lexemes

end QueryOutline.Reading
