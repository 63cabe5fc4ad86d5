import QueryOutline.Proofs.Checked.Session

/-! Reading by positions and counters. A cursor steps through the lexemes, and the parentheses and
the levels of nesting are counted. The checks are these: a counter never goes below zero or above
the number of lexemes, a range of lexemes is within the sequence that it is taken from, a loop has
an end, a round of statements takes a lexeme, and a token that is taken for the name of a function
is one. -/

namespace QueryOutline.Checked

open Reading

section Steps

def peek : Run (Option Token) :=
  .ask fun session => session.cursor.peek

def position : Run Nat :=
  .ask fun session => session.cursor.position

def offset : Run Nat :=
  .ask fun session => session.cursor.offset

/-- More rounds than any loop over the lexemes can take. -/
def lexemeRounds : Run Nat :=
  .ask fun session => session.cursor.lexemes.length + 1

/-- The next number, unless it is above the number of lexemes. -/
def countUp (counter : Nat) : Run Nat := do
  let lexemes ← Run.ask fun session => session.cursor.lexemes.length
  .check (if counter < lexemes then some (counter + 1) else none)

/-- The number before, unless it is below zero. -/
def countDown (counter : Nat) : Run Nat :=
  .check (minus? counter 1)

end Steps

section Clauses

def skipLoop : (rounds : Nat) → (nesting : Nat) → Run Unit
  | 0, _ => .check none
  | rounds + 1, nesting => do
      match ← peek with
      | none => pure ()
      | some token =>
          match token with
          | .keyword word =>
              if nesting = 0 ∧ word.startsClause then pure ()
              else
                let _ ← Run.bump
                skipLoop rounds nesting
          | .mark .openParen =>
              let nesting ← countUp nesting
              let _ ← Run.bump
              skipLoop rounds nesting
          | .mark .closeParen =>
              if nesting = 0 then
                let _ ← Run.bump
                pure ()
              else
                let nesting ← countDown nesting
                let _ ← Run.bump
                skipLoop rounds nesting
          | _ =>
              let _ ← Run.bump
              skipLoop rounds nesting

def skip : Run Unit := do
  let start ← offset
  skipLoop (← lexemeRounds) 0
  let stop ← offset
  .emit (.skipped start stop)

/-- Takes lexemes up to the parenthesis that closes the outermost of `nesting` open ones, and gives
it. -/
def groupLoop : (rounds : Nat) → (nesting : Nat) → Run (Option Lexeme)
  | 0, _ => .check none
  | rounds + 1, nesting => do
      match ← Run.bump with
      | none => pure none
      | some lexeme =>
          match lexeme.token with
          | .mark .openParen =>
              let nesting ← countUp nesting
              groupLoop rounds nesting
          | .mark .closeParen =>
              let nesting ← countDown nesting
              if nesting = 0 then pure (some lexeme) else groupLoop rounds nesting
          | _ => groupLoop rounds nesting

end Clauses

section Expressions

def separated {α : Type} (item : Run α) : (rounds : Nat) → Run (List α)
  | 0 => .check none
  | rounds + 1 => do
      let first ← item
      if ← Run.eat (.mark .comma) then
        let more ← separated item rounds
        pure (first :: more)
      else pure [first]

def memberLoop : (rounds : Nat) → (object : Expr) → Run Expr
  | 0, _ => .check none
  | rounds + 1, object => do
      if (← peek) = some (.mark .dot) then
        match ← Run.ask fun session => session.cursor.peekNth 1 with
        | some (.identifier property) =>
            let _ ← Run.bump
            let _ ← Run.bump
            memberLoop rounds (.member object property)
        | _ => pure object
      else pure object

def arguments (argument : Run Expr) : Run (List Expr) := do
  if ← Run.eat (.mark .closeParen) then pure []
  else
    let arguments ← separated argument (← lexemeRounds)
    let _ ← Run.eat (.mark .closeParen)
    pure arguments

/-- The name of the function that a token stands for. There is none for most tokens, and the check
is that no such token gets here. -/
def calleeName : Token → Run String
  | .identifier name => pure (Text.capitals name)
  | .keyword word => pure word.spelling
  | _ => .check none

/-- The place at which a group ends, and the offset there. -/
def groupEnd : (closing : Option Lexeme) → Run (Nat × Nat)
  | some lexeme => do
      let stop ← countDown (← position)
      pure (stop, lexeme.start)
  | none => do
      let stop ← position
      let endOffset ← Run.ask fun session => session.cursor.endOffset
      pure (stop, endOffset)

/-- Reads the lexemes from the place `start` on and before the place `stop` as a session of their
own, one level deeper. -/
def enter (capacity limit : Nat) (inside : Run (List Statement)) (start stop endOffset : Nat) :
    Run (List Statement) := do
  let depth ← Run.ask Session.depth
  let depth ← Run.check (if depth < capacity then some (depth + 1) else none)
  if limit < depth then .fail (.nestingTooDeep limit)
  else
    let size ← Run.check (minus? stop start)
    .emit (.enteredGroup size depth)
    let slice ← Run.ask fun session => session.cursor.slice? start stop
    let content ← Run.check slice
    let letBound ← Run.ask Session.letBound
    Run.aside ⟨.start content endOffset, true, letBound, depth⟩ inside

def subquery (capacity limit : Nat) (inside : Run (List Statement)) : Run Expr := do
  let start ← position
  let closing ← groupLoop (← lexemeRounds) 1
  if closing.isNone then .emit .unclosedGroup
  let (stop, endOffset) ← groupEnd closing
  let body ← enter capacity limit inside start stop endOffset
  pure (.subquery (body.map Statement.elided))

def primary (capacity limit : Nat) (argument : Run Expr) (inside : Run (List Statement)) :
    Run Expr := do
  let offset ← offset
  match ← peek with
  | none => .fail (.expectedExpression offset none)
  | some token =>
      match token with
      | .mark .openParen =>
          let _ ← Run.bump
          subquery capacity limit inside
      | .string value =>
          let _ ← Run.bump
          pure (.literal (.string value))
      | .number value =>
          let _ ← Run.bump
          pure (.literal (.number value))
      | .float value =>
          let _ ← Run.bump
          pure (.literal (.float value))
      | .openString _ => .fail (.unterminatedString offset)
      | .boolean value =>
          let _ ← Run.bump
          pure (.literal (.boolean value))
      | .null =>
          let _ ← Run.bump
          pure (.literal .null)
      | .identifier _ | .keyword _ =>
          if (← Run.ask fun session => session.cursor.peekNth 1) = some (.mark .openParen) then
            let name ← calleeName token
            let _ ← Run.bump
            let _ ← Run.bump
            let arguments ← arguments argument
            pure (.call name arguments)
          else
            match token with
            | .identifier name =>
                let _ ← Run.bump
                memberLoop (← lexemeRounds) (.identifier name)
            | _ => .fail (.expectedExpression offset token)
      | .parameter name =>
          let _ ← Run.bump
          memberLoop (← lexemeRounds) (.identifier name)
      | _ => .fail (.expectedExpression offset token)

def comparison (operand : Run Expr) : Run Expr := do
  let left ← operand
  match (← peek).bind comparison? with
  | none => pure left
  | some operator =>
      let _ ← Run.bump
      let right ← operand
      pure (.binary operator left right)

def logicalLoop (operand : Run Expr) : (rounds : Nat) → (left : Expr) → Run Expr
  | 0, _ => .check none
  | rounds + 1, left => do
      match (← peek).bind logicalOperator? with
      | none => pure left
      | some operator =>
          let _ ← Run.bump
          let right ← operand
          logicalLoop operand rounds (.binary operator left right)

def logical (operand : Run Expr) : Run Expr := do
  let first ← comparison operand
  logicalLoop (comparison operand) (← lexemeRounds) first

end Expressions

section Statements

def variableName : Run String := do
  match ← peek with
  | some (.identifier name) =>
      let _ ← Run.bump
      pure name
  | _ => .fail (.expectedVariable (← offset))

def collectionName : Run String := do
  match (← peek).bind collection? with
  | none => .fail (.expectedCollection (← offset))
  | some name =>
      let _ ← Run.bump
      pure name

def forClause : Run Statement := do
  let _ ← Run.eat (.keyword .forIn)
  let name ← variableName
  let _ ← Run.eat (.keyword .isIn)
  let collection ← collectionName
  pure (.forIn name collection)

def omitsBodies : Run Bool :=
  .ask fun session => session.inGroup || session.letBound

def filterClause (expression : Run Expr) : Run Statement := do
  let _ ← Run.eat (.keyword .filter)
  if ← omitsBodies then
    skip
    pure .omittedFilter
  else
    let condition ← expression
    pure (.filter condition)

def direction : Run Direction := do
  if ← Run.eat (.keyword .desc) then pure .desc
  else
    let _ ← Run.eat (.keyword .asc)
    pure .asc

def criterion (expression : Run Expr) : Run Criterion := do
  let key ← expression
  let order ← direction
  pure (.mk key order)

def sortClause (expression : Run Expr) : Run Statement := do
  let _ ← Run.eat (.keyword .sort)
  if ← omitsBodies then
    skip
    pure .omittedSort
  else
    let criteria ← separated (criterion expression) (← lexemeRounds)
    pure (.sort criteria)

def limitClause (operand : Run Expr) : Run Statement := do
  let _ ← Run.eat (.keyword .limit)
  let first ← operand
  if ← Run.eat (.mark .comma) then
    let second ← operand
    pure (.limit (.expression first) (.expression second))
  else pure (.limit (.number .zero) (.ofExpr first))

def letClause (expression : Run Expr) : Run Statement := do
  let _ ← Run.eat (.keyword .letBe)
  let name ← variableName
  let _ ← Run.eat (.mark .assign)
  let value ← expression
  pure (.letBe name value)

def unknown : Run (Option Statement) := do
  match ← Run.bump with
  | none => pure none
  | some lexeme =>
      .emit (.skipping lexeme.token lexeme.start)
      skip
      pure none

def clause (expression operand : Run Expr) : Run (Option Statement) := do
  match ← Run.ask fun session => session.cursor.peekKeyword with
  | some .forIn => some <$> forClause
  | some .filter => some <$> filterClause expression
  | some .sort => some <$> sortClause expression
  | some .limit => some <$> limitClause operand
  | some .letBe => some <$> letClause expression
  | _ => unknown

/-- Reads all statements. A round that gives no statement has to take a lexeme. -/
def statements (expression operand : Run Expr) : (rounds : Nat) → Run (List Statement)
  | 0 => .check none
  | rounds + 1 => do
      if ← Run.ask fun session => session.cursor.isAtEnd then pure []
      else
        let before ← position
        match ← clause expression operand with
        | some statement =>
            let more ← statements expression operand rounds
            pure (statement :: more)
        | none =>
            let after ← position
            let () ← Run.check (if after = before then none else some ())
            statements expression operand rounds

end Statements

mutual

/-- Reads an expression. `room` is what is left of the capacity. -/
def expression (capacity limit : Nat) : (room : Nat) → Run Expr
  | 0 => .check none
  | room + 1 => do
      let depth ← Run.ask Session.depth
      if limit ≤ depth then .fail (.nestingTooDeep limit)
      else
        .deeper capacity
          (logical (primary capacity limit (expression capacity limit room)
            (group capacity limit room)))

def group (capacity limit : Nat) : (room : Nat) → Run (List Statement)
  | 0 => .check none
  | room + 1 => do
      statements (expression capacity limit room)
        (primary capacity limit (expression capacity limit room) (group capacity limit room))
        (← lexemeRounds)

end

def body (capacity limit room : Nat) : Run (List Statement) := do
  statements (expression capacity limit room)
    (primary capacity limit (expression capacity limit room) (group capacity limit room))
    (← lexemeRounds)

/-- The session in front of the lexemes of a whole text with this number of bytes. -/
def Session.ofLexemes (options : Options) (bytes : Nat) (lexemes : List Lexeme) : Session :=
  ⟨.start lexemes bytes, false, options.letBound lexemes, 0⟩

/-- Reads a query. There may be as many levels of nesting as there are lexemes. -/
def query (options : Options) (bytes : Nat) (lexemes : List Lexeme) : Run Query := do
  .emit (.started bytes lexemes.length (options.letBound lexemes))
  let body ← body lexemes.length options.maxDepth lexemes.length
  pure ⟨body⟩

def read (options : Options) (text : String) : Option (Outcome Query) := do
  let lexemes ← lexemes text
  let bytes := Text.byteSize text.toList
  let (outcome, _) ← query options bytes lexemes (.ofLexemes options bytes lexemes)
  pure outcome

end QueryOutline.Checked
