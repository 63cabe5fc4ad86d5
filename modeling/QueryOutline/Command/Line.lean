import QueryOutline.Command.Check

/-! The command line: its arguments, and the report of a run. -/

namespace QueryOutline.Command

/-- The arguments of a check. What is not given is absent, so that nothing is given twice. -/
structure Arguments where
  query : Option String := none
  pretty : Bool := false
  syntaxOnly : Bool := false
  letContext : Bool := false
  maxDepth : Option Nat := none

namespace Arguments

def withQuery? (arguments : Arguments) (query : String) : Option Arguments :=
  if arguments.query.isSome then none else some { arguments with query := some query }

def withPretty? (arguments : Arguments) : Option Arguments :=
  if arguments.pretty then none else some { arguments with pretty := true }

def withSyntaxOnly? (arguments : Arguments) : Option Arguments :=
  if arguments.syntaxOnly then none else some { arguments with syntaxOnly := true }

def withLetContext? (arguments : Arguments) : Option Arguments :=
  if arguments.letContext then none else some { arguments with letContext := true }

end Arguments

/-- The number that a text of digits stands for, if it has 64 bits at most. A plus sign may stand
in front of the digits. -/
def depth? (text : String) : Option Nat :=
  let digits := match text.toList with
    | '+' :: digits => digits
    | digits => digits
  if digits.isEmpty || !digits.all Char.isDigit then none
  else
    let value := Number.digitsValue (digits.map Number.digitValue)
    if value < Number.twoPow 64 then some value else none

def Arguments.withMaxDepth? (arguments : Arguments) (text : String) : Option Arguments :=
  if arguments.maxDepth.isSome then none
  else (depth? text).map fun depth => { arguments with maxDepth := some depth }

/-- The options of one letter that stand behind a single hyphen. There is one such option. -/
def readLetters : Arguments → List Char → Option Arguments
  | arguments, [] => some arguments
  | arguments, letter :: letters =>
      if letter = 'p' then arguments.withPretty?.bind fun arguments => readLetters arguments letters
      else none

/-- An option that needs no further argument. The long ones have two hyphens, and a value may be
joined to its option by an equals sign. -/
def readOption (arguments : Arguments) (text : String) : Option Arguments :=
  match text.toList with
  | '-' :: '-' :: long =>
      if long = "pretty".toList then arguments.withPretty?
      else if long = "syntax-only".toList then arguments.withSyntaxOnly?
      else if long = "let-context".toList then arguments.withLetContext?
      else if "max-depth=".toList.isPrefixOf long then
        arguments.withMaxDepth? (String.ofList (long.drop "max-depth=".length))
      else none
  | '-' :: letters => readLetters arguments letters
  | _ => none

/-- Whether a text is meant as an option. A hyphen by itself is not. -/
def isOption (text : String) : Bool :=
  text.toList.head? == some '-' && text.length != 1

/-- The arguments behind the end of the options, none of which is an option. -/
def readQueries : Arguments → List String → Option Arguments
  | arguments, [] => some arguments
  | arguments, query :: rest =>
      (arguments.withQuery? query).bind fun arguments => readQueries arguments rest

/-- Reads the arguments of a check, options and query in any order. -/
def readArguments : Arguments → List String → Option Arguments
  | arguments, [] => some arguments
  | arguments, [text] =>
      if text = "--" then some arguments
      else if isOption text then readOption arguments text
      else arguments.withQuery? text
  | arguments, text :: next :: rest =>
      if text = "--" then readQueries arguments (next :: rest)
      else if text = "--max-depth" then
        (arguments.withMaxDepth? next).bind fun arguments => readArguments arguments rest
      else if isOption text then
        (readOption arguments text).bind fun arguments => readArguments arguments (next :: rest)
      else (arguments.withQuery? text).bind fun arguments => readArguments arguments (next :: rest)

inductive Request where
  | version
  | check (arguments : Arguments)

def request? : List String → Option Request
  | [] => none
  | first :: rest =>
      if first = "--version" || "-V".toList.isPrefixOf first.toList then some .version
      else if first = "check" then (readArguments {} rest).map .check
      else none

structure Report where
  exitCode : Nat
  stdout : String := ""
  stderr : String := ""
deriving DecidableEq

def usage : Report :=
  { exitCode := 2
    stderr := "Usage: check [QUERY] [-p|--pretty] [--syntax-only] [--max-depth N] " ++
      "[--let-context]\n" }

/-- The report on a failure, which is one line. -/
def failed (message : String) : Report :=
  { exitCode := 1, stderr := message ++ "\n" }

def report (check : Check) : Report :=
  match check.run with
  | .ok .valid => { exitCode := 0, stdout := "Syntax is valid\n" }
  | .ok (.outline json) => { exitCode := 0, stdout := json ++ "\n" }
  | .error failure => failed failure.message

/-- The text to check: the query of the arguments, or else the whole input, unless it is no text in
UTF-8. -/
def Arguments.text? (arguments : Arguments) (input : ByteArray) : Option String :=
  match arguments.query with
  | some query => some query
  | none => String.fromUTF8? input

/-- The check that the arguments ask for on a text. -/
def Arguments.check (arguments : Arguments) (text : String) : Check :=
  { text := text
    pretty := arguments.pretty
    syntaxOnly := arguments.syntaxOnly
    options := {
      maxDepth := arguments.maxDepth.getD ({} : Options).maxDepth
      letContext := arguments.letContext } }

def run (commandLine : List String) (input : ByteArray) : Report :=
  match request? commandLine with
  | none => usage
  | some .version => { exitCode := 0, stdout := "aqlir 0.1.0\n" }
  | some (.check arguments) =>
      match arguments.text? input with
      | none => failed "IO error: stream did not contain valid UTF-8"
      | some text => report (arguments.check text)

/-- Whether a command line takes its query from the input. -/
def needsInput (commandLine : List String) : Bool :=
  match request? commandLine with
  | some (.check arguments) => arguments.query.isNone
  | _ => false

end QueryOutline.Command
