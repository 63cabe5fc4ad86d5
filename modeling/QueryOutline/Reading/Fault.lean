import QueryOutline.Token.Basic

namespace QueryOutline

/-- Why a query could not be read. Offsets count the bytes of the query text. -/
inductive Fault where
  | expectedVariable (offset : Nat)
  | expectedCollection (offset : Nat)
  /-- Something other than an expression was found, or nothing at all. -/
  | expectedExpression (offset : Nat) (found : Option Token)
  | unterminatedString (offset : Nat)
  | nestingTooDeep (limit : Nat)
deriving DecidableEq

def Fault.message : Fault → String
  | .expectedVariable offset => "Expected variable name at offset " ++ offset.repr
  | .expectedCollection offset => "Expected collection name at offset " ++ offset.repr
  | .expectedExpression offset found =>
      "Expected expression at offset " ++ offset.repr ++ ", found " ++ Token.describeNext found
  | .unterminatedString offset => "Unterminated string starting at offset " ++ offset.repr
  | .nestingTooDeep limit => "Query nesting exceeds the limit of " ++ limit.repr

end QueryOutline
