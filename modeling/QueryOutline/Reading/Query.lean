import QueryOutline.Lexeme.Scanner
import QueryOutline.Reading.Statement

/-! Reading a query. Expressions and groups contain each other. Each level of nesting takes one
from a budget, on which the two readers recurse. -/

namespace QueryOutline

namespace Reading

mutual

/-- Reads an expression, which takes one level of nesting from the budget. -/
def expression : (budget : Nat) → Scope → List Lexeme → Outcome (Expr × List Lexeme)
  | 0, scope, _ => .fail (.nestingTooDeep scope.limit)
  | budget + 1, scope, lexemes =>
      logical (primary scope (expression budget scope) (groupBody budget)) lexemes

/-- Reads the statements in a group, which takes one level of nesting from the budget. -/
def groupBody : (budget : Nat) → Scope → List Lexeme → Outcome (List Statement)
  | 0, scope, _ => .fail (.nestingTooDeep scope.limit)
  | budget + 1, scope, lexemes => do
      .emit (.enteredGroup lexemes.length (scope.limit - budget))
      statements scope (expression budget scope) (groupBody budget) lexemes

end

def scopeBody (budget : Nat) (scope : Scope) (lexemes : List Lexeme) : Outcome (List Statement) :=
  statements scope (expression budget scope) (groupBody budget) lexemes

end Reading

/-- What a reading can be told beside the text. -/
structure Options where
  /-- The greatest nesting of expressions and groups. -/
  maxDepth : Nat := 64
  /-- Whether the text is part of a query that binds variables. -/
  letContext : Bool := false

namespace Options

/-- Whether the query binds variables: by its own text, or because it is said to. -/
def letBound (options : Options) (lexemes : List Lexeme) : Bool :=
  options.letContext || lexemes.any fun lexeme => lexeme.token == .keyword .letBe

def scope (options : Options) (bytes : Nat) (lexemes : List Lexeme) : Reading.Scope :=
  ⟨options.maxDepth, options.letBound lexemes, false, bytes⟩

end Options

namespace Query

def ofLexemes (options : Options) (bytes : Nat) (lexemes : List Lexeme) : Outcome Query := do
  .emit (.started bytes lexemes.length (options.letBound lexemes))
  let body ← Reading.scopeBody options.maxDepth (options.scope bytes lexemes) lexemes
  pure ⟨body⟩

/-- Reads a query text, with the events of the reading. -/
def read (options : Options) (text : String) : Outcome Query :=
  ofLexemes options (Text.byteSize text.toList) (lexemes text)

def ofText (options : Options) (text : String) : Except Fault Query :=
  (read options text).result

end Query

end QueryOutline
