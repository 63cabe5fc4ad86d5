import QueryOutline.Text.Word

namespace QueryOutline

inductive Keyword where
  | forIn
  | filter
  | sort
  | limit
  | letBe
  | returns
  | collect
  | isIn
  | and
  | or
  | like
  | asc
  | desc
deriving DecidableEq, Repr

namespace Keyword

def all : List Keyword :=
  [.forIn, .filter, .sort, .limit, .letBe, .returns, .collect, .isIn, .and, .or, .like, .asc,
    .desc]

/-- The word in upper case, which is how it is shown. -/
def spelling : Keyword → String
  | .forIn => "FOR"
  | .filter => "FILTER"
  | .sort => "SORT"
  | .limit => "LIMIT"
  | .letBe => "LET"
  | .returns => "RETURN"
  | .collect => "COLLECT"
  | .isIn => "IN"
  | .and => "AND"
  | .or => "OR"
  | .like => "LIKE"
  | .asc => "ASC"
  | .desc => "DESC"

/-- Whether the word opens a clause. A clause that is stepped over ends in front of such a
word. -/
def startsClause : Keyword → Bool
  | .forIn | .filter | .sort | .limit | .letBe | .returns | .collect => true
  | .isIn | .and | .or | .like | .asc | .desc => false

/-- The reserved word with this spelling. The case of ASCII letters does not matter. -/
def ofWord? (word : List Char) : Option Keyword :=
  all.find? fun keyword => keyword.spelling.toList == Text.asciiUpper word

end Keyword

end QueryOutline
