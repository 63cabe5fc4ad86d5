import QueryOutline.Json.Basic
import QueryOutline.Outline.Basic

/-! The JSON form of an outline. Every node is an object that names its type, with the members in
the order of their keys, and an omitted part is the string `Omitted`. -/

namespace QueryOutline

open Number

/-- What stands in the place of an omitted part. -/
def omitted : Json := .string "Omitted"

/-- A whole number of 64 bits is an integer, and any other decimal a float. -/
def Number.Decimal.toJson (value : Decimal) : Json :=
  match value.toInt64? with
  | some whole => .integer whole
  | none => .float value.toBinary64

def Literal.toJson : Literal → Json
  | .string value => .string value
  | .number value => value.toJson
  | .float value => .float value
  | .boolean value => .bool value
  | .null => .null

mutual

def Expr.toJson : Expr → Json
  | .literal value => .object [("type", .string "Literal"), ("value", value.toJson)]
  | .identifier name => .object [("name", .string name), ("type", .string "Identifier")]
  | .member object property =>
      .object [("object", object.toJson), ("property", .string property),
        ("type", .string "MemberExpression")]
  | .call name arguments =>
      .object [("args", .array (argumentsToJson arguments)), ("functionName", .string name),
        ("type", .string "FunctionCall")]
  | .binary operator left right =>
      .object [("left", left.toJson), ("operator", .string operator.spelling),
        ("right", right.toJson), ("type", .string "BinaryOperation")]
  | .subquery body => .object [("body", .array (bodyToJson body)), ("type", .string "Query")]

def argumentsToJson : List Expr → List Json
  | [] => []
  | expression :: expressions => expression.toJson :: argumentsToJson expressions

def Criterion.toJson : Criterion → Json
  | .mk expression direction =>
      .object [("direction", .string direction.spelling), ("expression", expression.toJson)]

def criteriaToJson : List Criterion → List Json
  | [] => []
  | criterion :: criteria => criterion.toJson :: criteriaToJson criteria

def Bound.toJson : Bound → Json
  | .number value => value.toJson
  | .expression value => value.toJson

def Statement.toJson : Statement → Json
  | .forIn name collection =>
      .object [("collectionName", .string collection), ("type", .string "ForStatement"),
        ("variableName", .string name)]
  | .filter condition =>
      .object [("condition", condition.toJson), ("type", .string "FilterStatement")]
  | .omittedFilter => .object [("condition", omitted), ("type", .string "FilterStatement")]
  | .sort criteria =>
      .object [("criteria", .array (criteriaToJson criteria)), ("type", .string "SortStatement")]
  | .omittedSort => .object [("criteria", omitted), ("type", .string "SortStatement")]
  | .limit offset count =>
      .object [("count", count.toJson), ("offset", offset.toJson),
        ("type", .string "LimitStatement")]
  | .letBe name value =>
      .object [("expression", value.toJson), ("type", .string "LetStatement"),
        ("variableName", .string name)]

def bodyToJson : List Statement → List Json
  | [] => []
  | statement :: body => statement.toJson :: bodyToJson body

end

def Query.toJson (query : Query) : Json :=
  .object [("body", .array (bodyToJson query.body)), ("type", .string "Query")]

/-- The text of a query in JSON, on one line. -/
def Query.json (query : Query) : String :=
  query.toJson.text .compact

/-- The text of a query in JSON, with one item a line. -/
def Query.prettyJson (query : Query) : String :=
  query.toJson.text .pretty

end QueryOutline
