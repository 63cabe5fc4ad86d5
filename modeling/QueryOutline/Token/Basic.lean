import QueryOutline.Number.Decimal
import QueryOutline.Number.FloatText
import QueryOutline.Text.Quoted
import QueryOutline.Token.Keyword
import QueryOutline.Token.Mark

namespace QueryOutline

open Number

/-- The smallest units of a query text with a meaning. -/
inductive Token where
  /-- A number within the range of decimals. -/
  | number (value : Decimal)
  /-- A number too large for a decimal. -/
  | float (value : Binary64)
  /-- The content of a text between quotes. -/
  | string (value : String)
  /-- A quote without its partner, together with the rest of the input. It is a fault only where
  a value is needed. -/
  | openString (value : String)
  | boolean (value : Bool)
  | null
  /-- The name of a variable, a collection, a property or a function. -/
  | identifier (name : String)
  /-- A bound parameter, with the one or two at signs in front of it. -/
  | parameter (name : String)
  | keyword (word : Keyword)
  | mark (sign : Mark)
  /-- Any other character, on its own. -/
  | symbol (char : Char)
deriving DecidableEq

namespace Token

def describe : Token → String
  | .number value => "number " ++ value.text
  | .float value => "number " ++ value.text
  | .string value => "string " ++ Text.quoted value
  | .openString _ => "unterminated string"
  | .boolean value => if value then "'true'" else "'false'"
  | .null => "'null'"
  | .identifier name => "identifier '" ++ name ++ "'"
  | .parameter name => "parameter '" ++ name ++ "'"
  | .keyword word => "keyword '" ++ word.spelling ++ "'"
  | .mark sign => "'" ++ String.ofList sign.spelling ++ "'"
  | .symbol char => "'" ++ String.ofList [char] ++ "'"

/-- How the place of a token is named in a message if there may be no token left. -/
def describeNext : Option Token → String
  | some token => token.describe
  | none => "end of input"

/-- Equality of tokens with numbers compared by value. -/
def same : Token → Token → Bool
  | .number left, .number right => left.same right
  | .float left, .float right => left.same right
  | left, right => left == right

end Token

/-- A token with the range of bytes that it takes in the query text. -/
structure Lexeme where
  token : Token
  start : Nat
  stop : Nat
deriving DecidableEq

end QueryOutline
