import QueryOutline.Command.Check
import QueryOutline.Command.Line
import QueryOutline.Json.Basic
import QueryOutline.Lexeme.Cursor
import QueryOutline.Lexeme.Scanner
import QueryOutline.Lexeme.Source
import QueryOutline.Main
import QueryOutline.Number.Binary64
import QueryOutline.Number.Decimal
import QueryOutline.Number.Digits
import QueryOutline.Number.FloatReader
import QueryOutline.Number.FloatText
import QueryOutline.Number.Rounding
import QueryOutline.Outline.Basic
import QueryOutline.Outline.Equality
import QueryOutline.Outline.Json
import QueryOutline.Proofs.Checked.Expressions
import QueryOutline.Proofs.Checked.Reading
import QueryOutline.Proofs.Checked.Scanning
import QueryOutline.Proofs.Checked.Session
import QueryOutline.Proofs.Checked.Statements
import QueryOutline.Proofs.CheckedReading
import QueryOutline.Proofs.ClauseConcatenation
import QueryOutline.Proofs.ClauseDispatch
import QueryOutline.Proofs.ClauseEnd
import QueryOutline.Proofs.Depth.Approximation
import QueryOutline.Proofs.Depth.Threshold
import QueryOutline.Proofs.ElidedReading
import QueryOutline.Proofs.ExpressionYield
import QueryOutline.Proofs.FaultPlaces
import QueryOutline.Proofs.Grammar.Elision
import QueryOutline.Proofs.Grammar.Enclosure
import QueryOutline.Proofs.Grammar.Expressions
import QueryOutline.Proofs.Grammar.Extent
import QueryOutline.Proofs.Grammar.Logs
import QueryOutline.Proofs.Grammar.NextStatement
import QueryOutline.Proofs.Grammar.Nodes
import QueryOutline.Proofs.Grammar.Pairing
import QueryOutline.Proofs.Grammar.Progress
import QueryOutline.Proofs.Grammar.Relocation
import QueryOutline.Proofs.Grammar.Rules
import QueryOutline.Proofs.Grammar.Sequences
import QueryOutline.Proofs.Grammar.Sites
import QueryOutline.Proofs.Grammar.Statements
import QueryOutline.Proofs.Grammar.Steps
import QueryOutline.Proofs.Grammar.Streams
import QueryOutline.Proofs.Grammar.Transfer
import QueryOutline.Proofs.GroupedQuery
import QueryOutline.Proofs.Json.Unambiguous
import QueryOutline.Proofs.JsonForm
import QueryOutline.Proofs.JsonLayouts
import QueryOutline.Proofs.LayoutInvariance
import QueryOutline.Proofs.Lexeme.Joining
import QueryOutline.Proofs.Lexeme.Layout
import QueryOutline.Proofs.Lexeme.Names
import QueryOutline.Proofs.Lexeme.Places
import QueryOutline.Proofs.Lexeme.Quotes
import QueryOutline.Proofs.Lexeme.Separation
import QueryOutline.Proofs.Lexeme.Spelling
import QueryOutline.Proofs.LexemeTiling
import QueryOutline.Proofs.Number.DecimalText
import QueryOutline.Proofs.OmittedBodies
import QueryOutline.Proofs.OperatorWords
import QueryOutline.Proofs.Outline.Everywhere
import QueryOutline.Proofs.Outline.Height
import QueryOutline.Proofs.Outline.Induction
import QueryOutline.Proofs.Outline.Nesting
import QueryOutline.Proofs.Outline.Shape
import QueryOutline.Proofs.OutlineHeight
import QueryOutline.Proofs.OutlineShape
import QueryOutline.Proofs.RoundTrip
import QueryOutline.Proofs.SessionProgress
import QueryOutline.Proofs.SkippedRanges
import QueryOutline.Proofs.SkippedText
import QueryOutline.Proofs.StringLiterals
import QueryOutline.Proofs.Text.Classes
import QueryOutline.Proofs.TokenSources
import QueryOutline.Proofs.TrailingParens
import QueryOutline.Proofs.WholeNumbers
import QueryOutline.Proofs.Writing.Balance
import QueryOutline.Proofs.Writing.Derivation
import QueryOutline.Proofs.Writing.Pieces
import QueryOutline.Proofs.Writing.Scanning
import QueryOutline.Reading.Clause
import QueryOutline.Reading.Event
import QueryOutline.Reading.Expression
import QueryOutline.Reading.Fault
import QueryOutline.Reading.Outcome
import QueryOutline.Reading.Query
import QueryOutline.Reading.Statement
import QueryOutline.Text.Blank
import QueryOutline.Text.Capital
import QueryOutline.Text.CodeRange
import QueryOutline.Text.Extender
import QueryOutline.Text.Letter
import QueryOutline.Text.Numeric
import QueryOutline.Text.Printable
import QueryOutline.Text.Quoted
import QueryOutline.Text.Word
import QueryOutline.Token.Basic
import QueryOutline.Token.Keyword
import QueryOutline.Token.Mark
