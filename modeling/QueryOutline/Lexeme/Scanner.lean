import QueryOutline.Text.Blank
import QueryOutline.Token.Basic

/-! The scanner cuts a query text into lexemes. Every text can be scanned: a character that
belongs to no token is a token of its own, and blanks between tokens are dropped. -/

namespace QueryOutline

open Number Text

/-- A token at the start of a text, with the characters it was read from and those after it. -/
structure Scan where
  token : Token
  source : List Char
  rest : List Char

/-- The content of a quoted text, with the characters up to the closing quote and those after
it. -/
structure QuotedScan where
  value : List Char
  source : List Char
  rest : List Char
  closed : Bool

/-- The character that an escaped character stands for. All but three stand for themselves. -/
def unescape (c : Char) : Char :=
  if c == 'n' then '\n' else if c == 't' then '\t' else if c == 'r' then '\r' else c

/-- Reads the content of a quoted text behind its opening quote. A backslash takes away the
meaning of the character after it, and one at the end of the text stands for nothing. -/
def scanQuoted (quote : Char) : List Char → QuotedScan
  | [] => ⟨[], [], [], false⟩
  | c :: text =>
      if c = quote then ⟨[], [c], text, true⟩
      else if c = '\\' then
        match text with
        | [] => ⟨[], [c], [], false⟩
        | escaped :: text =>
            let more := scanQuoted quote text
            { more with
              value := unescape escaped :: more.value
              source := c :: escaped :: more.source }
      else
        let more := scanQuoted quote text
        { more with value := c :: more.value, source := c :: more.source }

def scanString (quote : Char) (text : List Char) : Scan :=
  let content := scanQuoted quote text
  let value := String.ofList content.value
  ⟨if content.closed then .string value else .openString value, quote :: content.source,
    content.rest⟩

/-- The digits behind a point at the start of a text. A point without a digit behind it does not
belong to a number. -/
def fractionDigits : List Char → List Char
  | '.' :: text => text.takeWhile Char.isDigit
  | _ => []

def numberToken (negative : Bool) (whole fraction : List Char) : Token :=
  let numeral : Numeral := ⟨negative, whole.map digitValue, fraction.map digitValue⟩
  match Decimal.ofNumeral? numeral with
  | some value => .number value
  | none => .float numeral.toBinary64

def scanNumber (negative : Bool) (text : List Char) : Scan :=
  let whole := text.takeWhile Char.isDigit
  let rest := text.dropWhile Char.isDigit
  let fraction := fractionDigits rest
  let point := if fraction.isEmpty then [] else '.' :: fraction
  ⟨numberToken negative whole fraction, (if negative then ['-'] else []) ++ whole ++ point,
    rest.drop point.length⟩

/-- The token that a word stands for unless it is the name of a property: a truth value, the null
value or a keyword. The case of ASCII letters does not matter. -/
def reserved? (word : List Char) : Option Token :=
  let upper := asciiUpper word
  if upper == "TRUE".toList then some (.boolean true)
  else if upper == "FALSE".toList then some (.boolean false)
  else if upper == "NULL".toList then some .null
  else (Keyword.ofWord? word).map .keyword

/-- The token of a word. Behind a dot every word is the name of a property. -/
def wordToken (afterDot : Bool) (word : List Char) : Token :=
  let name := Token.identifier (String.ofList word)
  if afterDot then name else (reserved? word).getD name

/-- Reads a word, which is as long as it can be. -/
def scanWord (afterDot : Bool) (text : List Char) : Scan :=
  let word := text.takeWhile isWordChar
  ⟨wordToken afterDot word, word, text.dropWhile isWordChar⟩

/-- Whether a run of digits at the start of a text goes on as a word. -/
def digitsRunIntoWord (text : List Char) : Bool :=
  (text.dropWhile Char.isDigit).head?.any isWordChar

/-- The at signs of a parameter: one, and a second one if it follows. -/
def sigil : List Char → List Char
  | '@' :: _ => ['@', '@']
  | _ => ['@']

/-- Reads a parameter behind its first at sign. Without a word behind the at signs, the first of
them is a symbol. -/
def scanParameter (text : List Char) : Scan :=
  let signs := sigil text
  let name := text.drop (signs.length - 1)
  let word := name.takeWhile isWordChar
  if word.isEmpty then ⟨.symbol '@', ['@'], text⟩
  else ⟨.parameter (String.ofList (signs ++ word)), signs ++ word, name.dropWhile isWordChar⟩

/-- Reads what starts with a character that starts no mark. A run of digits that goes on as a word
is a name, which no keyword can be. -/
def scanLiteral (afterDot : Bool) (c : Char) (text : List Char) : Scan :=
  if c = '"' ∨ c = '\'' then scanString c text
  else if c = '@' then scanParameter text
  else if c = '-' ∧ text.head?.any Char.isDigit then scanNumber true text
  else if c.isDigit then
    if digitsRunIntoWord (c :: text) then scanWord true (c :: text)
    else scanNumber false (c :: text)
  else if isWordStart c then scanWord afterDot (c :: text)
  else ⟨.symbol c, [c], text⟩

def scanToken (afterDot : Bool) (c : Char) (text : List Char) : Scan :=
  match Mark.ofText? (c :: text) with
  | some mark => ⟨.mark mark, mark.spelling, (c :: text).drop mark.spelling.length⟩
  | none => scanLiteral afterDot c text

/-- The state of a scan: the characters not read yet, the number of bytes in front of them, and
whether the last token was a dot. -/
structure Scanner where
  rest : List Char
  offset : Nat
  afterDot : Bool

namespace Scanner

def ofText (text : String) : Scanner :=
  ⟨text.toList, 0, false⟩

/-- The next lexeme, if there is one, and the scanner behind it. -/
def next (scanner : Scanner) : Option Lexeme × Scanner :=
  let start := scanner.offset + byteSize (scanner.rest.takeWhile isBlank)
  match scanner.rest.dropWhile isBlank with
  | [] => (none, ⟨[], start, false⟩)
  | c :: text =>
      let scan := scanToken scanner.afterDot c text
      let stop := start + byteSize scan.source
      (some ⟨scan.token, start, stop⟩, ⟨scan.rest, stop, scan.token == .mark .dot⟩)

def lexemesWithin : (rounds : Nat) → Scanner → List Lexeme
  | 0, _ => []
  | rounds + 1, scanner =>
      match scanner.next with
      | (none, _) => []
      | (some lexeme, after) => lexeme :: lexemesWithin rounds after

/-- All lexemes from the scanner on. Each of them takes at least one character. -/
def lexemes (scanner : Scanner) : List Lexeme :=
  scanner.lexemesWithin scanner.rest.length

end Scanner

/-- The lexemes of a text. -/
def lexemes (text : String) : List Lexeme :=
  (Scanner.ofText text).lexemes

def firstToken? (text : String) : Option Token :=
  (Scanner.ofText text).next.1.map Lexeme.token

end QueryOutline
