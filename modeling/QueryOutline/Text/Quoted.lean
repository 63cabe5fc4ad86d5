import QueryOutline.Text.Extender
import QueryOutline.Text.Printable

namespace QueryOutline.Text

/-- One character as it appears between quotes. The two characters with a meaning there and the
usual controls have a short escape. A character that would not be seen, or that would attach
itself to its neighbour, is given by its code point in hexadecimal digits. -/
def quotedChar (c : Char) : List Char :=
  if c == '\x00' then ['\\', '0']
  else if c == '\t' then ['\\', 't']
  else if c == '\r' then ['\\', 'r']
  else if c == '\n' then ['\\', 'n']
  else if c == '"' || c == '\\' then ['\\', c]
  else if isExtender c || !isPrintable c then
    ['\\', 'u', '\x7b'] ++ Nat.toDigits 16 c.toNat ++ ['\x7d']
  else [c]

/-- A text between double quotes, with every character visible and on one line. -/
def quoted (text : String) : String :=
  String.ofList (['"'] ++ text.toList.flatMap quotedChar ++ ['"'])

end QueryOutline.Text
