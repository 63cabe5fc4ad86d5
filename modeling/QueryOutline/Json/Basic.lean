import QueryOutline.Number.FloatText

/-! JSON documents and their text. One writer serves both layouts, which differ in the blanks
between the parts of a document and in nothing else. -/

namespace QueryOutline

open Number

/-- A JSON document. The members of an object are written in the order in which they are held. -/
inductive Json where
  | null
  | bool (value : Bool)
  | integer (value : Int)
  | float (value : Binary64)
  | string (value : String)
  | array (items : List Json)
  | object (members : List (String × Json))

namespace Json

structure Layout where
  /-- What stands between two items, and inside the brackets of a container that is not empty, at
  a level of nesting. -/
  lineBreak : Nat → List Char
  /-- What stands between the colon and the value of a member. -/
  gap : List Char

def Layout.compact : Layout := ⟨fun _ => [], []⟩

/-- A document with one item a line, indented by two spaces for each level. -/
def Layout.pretty : Layout := ⟨fun level => '\n' :: List.replicate (2 * level) ' ', [' ']⟩

/-- Floats have a point or a power of ten. They are written without a power if the first digit
counts a power of ten from `10 ^ -5` to `10 ^ 15`. -/
def floatStyle : FloatStyle := ⟨.toEven, fun power => decide (-5 ≤ power ∧ power ≤ 15), true⟩

def integerChars (value : Int) : List Char :=
  (if value < 0 then ['-'] else []) ++ Nat.toDigits 10 value.natAbs

/-- The text of a float. A float that is not finite has no form in JSON and is written as the
null value. -/
def floatChars : Binary64 → List Char
  | .finite negative units => floatStyle.write negative units
  | .infinite _ | .nan => "null".toList

/-- A character of a string. The quote, the backslash and all controls are escaped. -/
def escapedChar (c : Char) : List Char :=
  if c == '"' || c == '\\' then ['\\', c]
  else if c == '\x08' then ['\\', 'b']
  else if c == '\x0c' then ['\\', 'f']
  else if c == '\n' then ['\\', 'n']
  else if c == '\r' then ['\\', 'r']
  else if c == '\t' then ['\\', 't']
  else if c.toNat < 0x20 then
    ['\\', 'u', '0', '0', Nat.digitChar (c.toNat / 16), Nat.digitChar (c.toNat % 16)]
  else [c]

def stringChars (value : String) : List Char :=
  '"' :: (value.toList.flatMap escapedChar ++ ['"'])

mutual

/-- The text of a document, followed by `rest`. -/
def write (layout : Layout) (level : Nat) : Json → (rest : List Char) → List Char
  | .null, rest => "null".toList ++ rest
  | .bool value, rest => (if value then "true".toList else "false".toList) ++ rest
  | .integer value, rest => integerChars value ++ rest
  | .float value, rest => floatChars value ++ rest
  | .string value, rest => stringChars value ++ rest
  | .array items, rest =>
      if items.isEmpty then '[' :: ']' :: rest
      else '[' :: (layout.lineBreak (level + 1) ++
        writeItems layout (level + 1) items (layout.lineBreak level ++ ']' :: rest))
  | .object members, rest =>
      if members.isEmpty then '\x7b' :: '\x7d' :: rest
      else '\x7b' :: (layout.lineBreak (level + 1) ++
        writeMembers layout (level + 1) members (layout.lineBreak level ++ '\x7d' :: rest))

def writeItems (layout : Layout) (level : Nat) : List Json → (rest : List Char) → List Char
  | [], rest => rest
  | item :: items, rest =>
      write layout level item
        (if items.isEmpty then rest
         else ',' :: (layout.lineBreak level ++ writeItems layout level items rest))

def writeMembers (layout : Layout) (level : Nat) :
    List (String × Json) → (rest : List Char) → List Char
  | [], rest => rest
  | (key, value) :: members, rest =>
      stringChars key ++ ':' :: (layout.gap ++ write layout level value
        (if members.isEmpty then rest
         else ',' :: (layout.lineBreak level ++ writeMembers layout level members rest)))

end

def text (layout : Layout) (document : Json) : String :=
  String.ofList (document.write layout 0 [])

end Json

end QueryOutline
