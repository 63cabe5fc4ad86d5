import QueryOutline.Token.Basic

namespace QueryOutline

/-- A position in a sequence of lexemes, for walking it by hand. The position counts the lexemes
that have been taken and is never beyond the end. -/
structure Cursor where
  lexemes : List Lexeme
  position : Nat
  /-- The offset that is given once all lexemes have been taken. -/
  endOffset : Nat

namespace Cursor

def start (lexemes : List Lexeme) (endOffset : Nat) : Cursor :=
  ⟨lexemes, 0, endOffset⟩

def isAtEnd (cursor : Cursor) : Bool :=
  decide (cursor.lexemes.length ≤ cursor.position)

def peekLexeme (cursor : Cursor) : Option Lexeme :=
  cursor.lexemes[cursor.position]?

/-- The token `n` places behind the next one. -/
def peekNth (cursor : Cursor) (n : Nat) : Option Token :=
  cursor.lexemes[cursor.position + n]?.map Lexeme.token

def peek (cursor : Cursor) : Option Token :=
  cursor.peekLexeme.map Lexeme.token

def peekKeyword (cursor : Cursor) : Option Keyword :=
  match cursor.peek with
  | some (.keyword word) => some word
  | _ => none

def offset (cursor : Cursor) : Nat :=
  (cursor.peekLexeme.map Lexeme.start).getD cursor.endOffset

def bump (cursor : Cursor) : Option Lexeme × Cursor :=
  match cursor.peekLexeme with
  | some lexeme => (some lexeme, { cursor with position := cursor.position + 1 })
  | none => (none, cursor)

/-- Takes the next token if it is equal to the expected one, numbers compared by value. The end of
the lexemes is equal to no token. -/
def eat (cursor : Cursor) (expected : Token) : Bool × Cursor :=
  if cursor.peek.any fun token => token.same expected then
    (true, { cursor with position := cursor.position + 1 })
  else (false, cursor)

def eatKeyword (cursor : Cursor) (word : Keyword) : Bool × Cursor :=
  cursor.eat (.keyword word)

/-- The lexemes from the place `first` on and before the place `last`, whatever the position. -/
def slice? (cursor : Cursor) (first last : Nat) : Option (List Lexeme) :=
  if first ≤ last ∧ last ≤ cursor.lexemes.length then
    some ((cursor.lexemes.take last).drop first)
  else none

end Cursor

end QueryOutline
