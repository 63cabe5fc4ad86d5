namespace QueryOutline

inductive Mark where
  | equal
  | notEqual
  | lessEqual
  | greaterEqual
  | both
  | either
  | assign
  | less
  | greater
  | openParen
  | closeParen
  | comma
  | dot
deriving DecidableEq, Repr

namespace Mark

/-- All marks. A mark of two characters stands before those of one, so that the first mark with
which a text starts is the longest one. -/
def all : List Mark :=
  [.equal, .notEqual, .lessEqual, .greaterEqual, .both, .either, .assign, .less, .greater,
    .openParen, .closeParen, .comma, .dot]

def spelling : Mark → List Char
  | .equal => ['=', '=']
  | .notEqual => ['!', '=']
  | .lessEqual => ['<', '=']
  | .greaterEqual => ['>', '=']
  | .both => ['&', '&']
  | .either => ['|', '|']
  | .assign => ['=']
  | .less => ['<']
  | .greater => ['>']
  | .openParen => ['(']
  | .closeParen => [')']
  | .comma => [',']
  | .dot => ['.']

/-- The longest mark at the start of a text. -/
def ofText? (text : List Char) : Option Mark :=
  all.find? fun mark => mark.spelling.isPrefixOf text

theorem mem_all (mark : Mark) : mark ∈ all := by
  cases mark <;> decide

end Mark

end QueryOutline
