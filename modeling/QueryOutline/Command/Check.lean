import QueryOutline.Outline.Json
import QueryOutline.Reading.Query
import QueryOutline.Text.Blank

namespace QueryOutline

/-- A text to be checked, and what is wanted of it. -/
structure Check where
  text : String
  pretty : Bool := false
  syntaxOnly : Bool := false
  options : Options := {}

namespace Check

/-- The answer for a text that can be read. -/
inductive Answer where
  | valid
  | outline (json : String)
deriving DecidableEq

inductive Failure where
  | noInput
  | unreadable (fault : Fault)
deriving DecidableEq

def Failure.message : Failure → String
  | .noInput => "No query provided. Pass it as an argument or pipe it to stdin."
  | .unreadable fault => "Parse error: " ++ fault.message

def answer (check : Check) (query : Query) : Answer :=
  if check.syntaxOnly then .valid
  else .outline (if check.pretty then query.prettyJson else query.json)

/-- Checks a text. A text of blanks is no query. -/
def run (check : Check) : Except Failure Answer :=
  if Text.isBlankText check.text.toList then .error .noInput
  else match Query.ofText check.options check.text with
    | .error fault => .error (.unreadable fault)
    | .ok query => .ok (check.answer query)

end Check

end QueryOutline
