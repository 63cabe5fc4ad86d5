import QueryOutline.Reading.Statement

/-! The grammar of queries as rules: what a sequence of lexemes says, and which lexemes are left
behind it. The rules know no limit of nesting and no order of attempts, and at most one of them
applies at a place. -/

namespace QueryOutline.Grammar

open Reading

def literal? : Token → Option Literal
  | .string value => some (.string value)
  | .number value => some (.number value)
  | .float value => some (.float value)
  | .boolean value => some (.boolean value)
  | .null => some .null
  | _ => none

/-- The function that a token names in front of an opening parenthesis. -/
def callee? : Token → Option String
  | .identifier name => some (Text.capitals name)
  | .keyword word => some word.spelling
  | _ => none

def opensStatement : Token → Bool
  | .keyword .forIn | .keyword .filter | .keyword .sort | .keyword .limit | .keyword .letBe => true
  | _ => false

/-- What can be said of lexemes: a value stands at their start, and `rest` is behind it. -/
inductive Judgement where
  /-- An expression without operators. -/
  | operand (lexemes : List Lexeme) (value : Expr) (rest : List Lexeme)
  /-- An operand, or two of them with a comparison between them. -/
  | comparison (lexemes : List Lexeme) (value : Expr) (rest : List Lexeme)
  /-- The logical operators behind `left`, with their right operands, make it `value`. -/
  | chain (left : Expr) (lexemes : List Lexeme) (value : Expr) (rest : List Lexeme)
  | expression (lexemes : List Lexeme) (value : Expr) (rest : List Lexeme)
  /-- Expressions with commas between them, at least one. -/
  | arguments (lexemes : List Lexeme) (values : List Expr) (rest : List Lexeme)
  /-- Sort keys with commas between them, at least one. -/
  | criteria (lexemes : List Lexeme) (values : List Criterion) (rest : List Lexeme)
  /-- A clause, which may give no statement. `omits` says whether bodies are stepped over. -/
  | clause (omits : Bool) (lexemes : List Lexeme) (value : Option Statement) (rest : List Lexeme)
  /-- Clauses up to the end of the lexemes. -/
  | body (omits : Bool) (lexemes : List Lexeme) (values : List Statement)

/-- The rules of the grammar. -/
inductive Derives : Judgement → Prop where
  | literal {lexeme : Lexeme} {value : Literal} {rest : List Lexeme}
      (hLiteral : literal? lexeme.token = some value) :
      Derives (.operand (lexeme :: rest) (.literal value) rest)
  | parameter {lexeme : Lexeme} {name : String} {rest : List Lexeme}
      (hToken : lexeme.token = .parameter name) :
      Derives (.operand (lexeme :: rest) (members (.identifier name) rest).1
        (members (.identifier name) rest).2)
  | name {lexeme : Lexeme} {name : String} {rest : List Lexeme}
      (hToken : lexeme.token = .identifier name)
      (hNoCall : eat? (.mark .openParen) rest = none) :
      Derives (.operand (lexeme :: rest) (members (.identifier name) rest).1
        (members (.identifier name) rest).2)
  | emptyCall {lexeme : Lexeme} {name : String} {rest inside after : List Lexeme}
      (hName : callee? lexeme.token = some name)
      (hOpen : eat? (.mark .openParen) rest = some inside)
      (hClose : eat? (.mark .closeParen) inside = some after) :
      Derives (.operand (lexeme :: rest) (.call name []) after)
  | call {lexeme : Lexeme} {name : String} {rest inside after : List Lexeme}
      {arguments : List Expr}
      (hName : callee? lexeme.token = some name)
      (hOpen : eat? (.mark .openParen) rest = some inside)
      (hMore : eat? (.mark .closeParen) inside = none)
      (hArguments : Derives (.arguments inside arguments after)) :
      Derives (.operand (lexeme :: rest) (.call name arguments)
        (eatOptional (.mark .closeParen) after))
  | group {lexeme : Lexeme} {rest : List Lexeme} {body : List Statement}
      (hOpen : lexeme.token = .mark .openParen)
      (hBody : Derives (.body true (splitGroup 0 rest).content body)) :
      Derives (.operand (lexeme :: rest) (.subquery body) (splitGroup 0 rest).rest)
  | single {lexemes rest : List Lexeme} {value : Expr}
      (hOperand : Derives (.operand lexemes value rest))
      (hEnd : nextOperator? comparison? rest = none) :
      Derives (.comparison lexemes value rest)
  | compare {lexemes middle second rest : List Lexeme} {operator : Operator} {left right : Expr}
      (hLeft : Derives (.operand lexemes left middle))
      (hOperator : nextOperator? comparison? middle = some (operator, second))
      (hRight : Derives (.operand second right rest)) :
      Derives (.comparison lexemes (.binary operator left right) rest)
  | chainEnd {value : Expr} {rest : List Lexeme}
      (hEnd : nextOperator? logicalOperator? rest = none) :
      Derives (.chain value rest value rest)
  | chainStep {lexemes second middle rest : List Lexeme} {operator : Operator}
      {left right value : Expr}
      (hOperator : nextOperator? logicalOperator? lexemes = some (operator, second))
      (hRight : Derives (.comparison second right middle))
      (hChain : Derives (.chain (.binary operator left right) middle value rest)) :
      Derives (.chain left lexemes value rest)
  | expression {lexemes middle rest : List Lexeme} {first value : Expr}
      (hFirst : Derives (.comparison lexemes first middle))
      (hChain : Derives (.chain first middle value rest)) :
      Derives (.expression lexemes value rest)
  | lastArgument {lexemes rest : List Lexeme} {value : Expr}
      (hValue : Derives (.expression lexemes value rest))
      (hEnd : eat? (.mark .comma) rest = none) :
      Derives (.arguments lexemes [value] rest)
  | nextArgument {lexemes middle second rest : List Lexeme} {value : Expr} {values : List Expr}
      (hValue : Derives (.expression lexemes value middle))
      (hComma : eat? (.mark .comma) middle = some second)
      (hMore : Derives (.arguments second values rest)) :
      Derives (.arguments lexemes (value :: values) rest)
  | lastCriterion {lexemes middle rest : List Lexeme} {value : Expr} {order : Direction}
      (hValue : Derives (.expression lexemes value middle))
      (hOrder : direction middle = (order, rest))
      (hEnd : eat? (.mark .comma) rest = none) :
      Derives (.criteria lexemes [.mk value order] rest)
  | nextCriterion {lexemes middle ordered second rest : List Lexeme} {value : Expr}
      {order : Direction} {values : List Criterion}
      (hValue : Derives (.expression lexemes value middle))
      (hOrder : direction middle = (order, ordered))
      (hComma : eat? (.mark .comma) ordered = some second)
      (hMore : Derives (.criteria second values rest)) :
      Derives (.criteria lexemes (.mk value order :: values) rest)
  | forIn {omits : Bool} {lexeme named source : Lexeme} {name collection : String}
      {middle rest : List Lexeme}
      (hToken : lexeme.token = .keyword .forIn)
      (hName : named.token = .identifier name)
      (hSource : eatOptional (.keyword .isIn) middle = source :: rest)
      (hCollection : collection? source.token = some collection) :
      Derives (.clause omits (lexeme :: named :: middle) (some (.forIn name collection)) rest)
  | filter {lexeme : Lexeme} {lexemes rest : List Lexeme} {condition : Expr}
      (hToken : lexeme.token = .keyword .filter)
      (hCondition : Derives (.expression lexemes condition rest)) :
      Derives (.clause false (lexeme :: lexemes) (some (.filter condition)) rest)
  | omittedFilter {lexeme : Lexeme} {lexemes : List Lexeme}
      (hToken : lexeme.token = .keyword .filter) :
      Derives (.clause true (lexeme :: lexemes) (some .omittedFilter) (afterClause 0 lexemes))
  | sort {lexeme : Lexeme} {lexemes rest : List Lexeme} {criteria : List Criterion}
      (hToken : lexeme.token = .keyword .sort)
      (hCriteria : Derives (.criteria lexemes criteria rest)) :
      Derives (.clause false (lexeme :: lexemes) (some (.sort criteria)) rest)
  | omittedSort {lexeme : Lexeme} {lexemes : List Lexeme}
      (hToken : lexeme.token = .keyword .sort) :
      Derives (.clause true (lexeme :: lexemes) (some .omittedSort) (afterClause 0 lexemes))
  | limitCount {omits : Bool} {lexeme : Lexeme} {lexemes rest : List Lexeme} {count : Expr}
      (hToken : lexeme.token = .keyword .limit)
      (hCount : Derives (.operand lexemes count rest))
      (hEnd : eat? (.mark .comma) rest = none) :
      Derives (.clause omits (lexeme :: lexemes)
        (some (.limit (.number .zero) (.ofExpr count))) rest)
  | limitBoth {omits : Bool} {lexeme : Lexeme} {lexemes middle second rest : List Lexeme}
      {offset count : Expr}
      (hToken : lexeme.token = .keyword .limit)
      (hOffset : Derives (.operand lexemes offset middle))
      (hComma : eat? (.mark .comma) middle = some second)
      (hCount : Derives (.operand second count rest)) :
      Derives (.clause omits (lexeme :: lexemes)
        (some (.limit (.expression offset) (.expression count))) rest)
  | letBe {omits : Bool} {lexeme named : Lexeme} {name : String} {lexemes rest : List Lexeme}
      {value : Expr}
      (hToken : lexeme.token = .keyword .letBe)
      (hName : named.token = .identifier name)
      (hValue : Derives (.expression (eatOptional (.mark .assign) lexemes) value rest)) :
      Derives (.clause omits (lexeme :: named :: lexemes) (some (.letBe name value)) rest)
  | skipped {omits : Bool} {lexeme : Lexeme} {lexemes : List Lexeme}
      (hToken : opensStatement lexeme.token = false) :
      Derives (.clause omits (lexeme :: lexemes) none (afterClause 0 lexemes))
  | bodyEnd {omits : Bool} : Derives (.body omits [] [])
  | bodyStep {omits : Bool} {lexemes rest : List Lexeme} {value : Option Statement}
      {values : List Statement}
      (hClause : Derives (.clause omits lexemes value rest))
      (hBody : Derives (.body omits rest values)) :
      Derives (.body omits lexemes (value.toList ++ values))

end QueryOutline.Grammar
