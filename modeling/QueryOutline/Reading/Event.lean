import QueryOutline.Token.Basic

namespace QueryOutline

/-- What is worth a line in the log of a reading. Offsets count the bytes of the query text. -/
inductive Event where
  | started (bytes tokens : Nat) (letBound : Bool)
  /-- A clause of no known kind, or a stray token, is stepped over. -/
  | skipping (token : Token) (offset : Nat)
  /-- The rest of a clause has been stepped over. -/
  | skipped (start stop : Nat)
  | unclosedGroup
  | enteredGroup (tokens depth : Nat)
deriving DecidableEq

inductive EventLevel where
  | warn
  | debug
  | trace
deriving DecidableEq, Repr

def EventLevel.spelling : EventLevel → String
  | .warn => "WARN"
  | .debug => "DEBUG"
  | .trace => "TRACE"

namespace Event

def level : Event → EventLevel
  | .unclosedGroup => .warn
  | .started .. | .enteredGroup .. => .debug
  | .skipping .. | .skipped .. => .trace

def message : Event → String
  | .started bytes tokens letBound =>
      "parsing " ++ bytes.repr ++ " bytes (" ++ tokens.repr ++ " tokens), let_context=" ++
        (if letBound then "true" else "false")
  | .skipping token offset =>
      "skipping unsupported clause " ++ token.describe ++ " at offset " ++ offset.repr
  | .skipped start stop => "skipped bytes " ++ start.repr ++ ".." ++ stop.repr
  | .unclosedGroup => "unterminated group, reading subquery to end of input"
  | .enteredGroup tokens depth =>
      "entering subquery of " ++ tokens.repr ++ " tokens at depth " ++ depth.repr

end Event

end QueryOutline
