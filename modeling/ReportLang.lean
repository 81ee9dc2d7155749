import ReportLang.Captures
import ReportLang.Command
import ReportLang.Command.Match
import ReportLang.Command.Parse
import ReportLang.CommandLine.FileTree
import ReportLang.CommandLine.Options
import ReportLang.CommandLine.Run
import ReportLang.Comparison
import ReportLang.Crash
import ReportLang.Diagnostic
import ReportLang.Environment
import ReportLang.Grammar
import ReportLang.Grammar.Builtin
import ReportLang.Grammar.Definition
import ReportLang.Grammar.Node
import ReportLang.Grammar.Terminal
import ReportLang.Host
import ReportLang.Instant
import ReportLang.Instruction
import ReportLang.Instruction.Group
import ReportLang.Json
import ReportLang.Lexeme
import ReportLang.Lexeme.Scan
import ReportLang.Main
import ReportLang.Number.Binary
import ReportLang.Number.Layout
import ReportLang.Number.Power
import ReportLang.Number.Shortest
import ReportLang.Position
import ReportLang.Program
import ReportLang.Reference
import ReportLang.Report
import ReportLang.RunError
import ReportLang.Screen
import ReportLang.Session
import ReportLang.Session.Action
import ReportLang.Session.Condition
import ReportLang.Session.Declare
import ReportLang.Session.Execute
import ReportLang.Session.Operand
import ReportLang.Session.Output
import ReportLang.Statement
import ReportLang.Text.Automaton
import ReportLang.Text.ByteSequence
import ReportLang.Text.Case
import ReportLang.Text.CaseTable
import ReportLang.Text.Class
import ReportLang.Text.ClassTable
import ReportLang.Text.Engine
import ReportLang.Text.Expression
import ReportLang.Text.Layout
import ReportLang.Text.Numeral
import ReportLang.Text.Pattern
import ReportLang.Text.Split
import ReportLang.Ty
import ReportLang.Update
import ReportLang.Value
import ReportLang.Value.Arithmetic
import ReportLang.Value.Compare
import ReportLang.Value.Convert
import ReportLang.Value.Error
import ReportLang.Value.Field
import ReportLang.Proofs.Captures
import ReportLang.Proofs.Captures.Data
import ReportLang.Proofs.Captures.Shape
import ReportLang.Proofs.Command.Evaluation
import ReportLang.Proofs.Command.LiteralContents
import ReportLang.Proofs.Command.Matching
import ReportLang.Proofs.Command.Reading
import ReportLang.Proofs.Command.Span
import ReportLang.Proofs.Command.Termination
import ReportLang.Proofs.CommandLine.Stages
import ReportLang.Proofs.CommandLine.Work
import ReportLang.Proofs.Condition.Meaning
import ReportLang.Proofs.Condition.Reading
import ReportLang.Proofs.Condition.Syntax
import ReportLang.Proofs.Definition.Reading
import ReportLang.Proofs.Definition.Syntax
import ReportLang.Proofs.Environment.Change
import ReportLang.Proofs.Environment.Place
import ReportLang.Proofs.Environment.Typing
import ReportLang.Proofs.Grammar.Builtin
import ReportLang.Proofs.Grammar.LeftRecursion
import ReportLang.Proofs.Grammar.Loading
import ReportLang.Proofs.Grammar.Outline
import ReportLang.Proofs.Grammar.Supply
import ReportLang.Proofs.Grammar.Terminal
import ReportLang.Proofs.Instruction.Data
import ReportLang.Proofs.Instruction.Flatten
import ReportLang.Proofs.Instruction.Grouping
import ReportLang.Proofs.Lexeme.Scanning
import ReportLang.Proofs.Lexeme.Spelling
import ReportLang.Proofs.Number.PlainText
import ReportLang.Proofs.Number.Shortest
import ReportLang.Proofs.Position
import ReportLang.Proofs.Program.FixedNumber
import ReportLang.Proofs.Program.LetterCase
import ReportLang.Proofs.Program.Sequence
import ReportLang.Proofs.Program.Stages
import ReportLang.Proofs.Result
import ReportLang.Proofs.Screen.Printing
import ReportLang.Proofs.Screen.Rows
import ReportLang.Proofs.Screen.Tape
import ReportLang.Proofs.Screen.Valid
import ReportLang.Proofs.Session.Clock
import ReportLang.Proofs.Session.Condition
import ReportLang.Proofs.Session.Conversion
import ReportLang.Proofs.Session.Display
import ReportLang.Proofs.Session.Failure
import ReportLang.Proofs.Session.FixedNumber
import ReportLang.Proofs.Session.Iteration
import ReportLang.Proofs.Session.Keeps
import ReportLang.Proofs.Session.Loops
import ReportLang.Proofs.Session.Path
import ReportLang.Proofs.Session.Permanence
import ReportLang.Proofs.Session.References
import ReportLang.Proofs.Session.Rules
import ReportLang.Proofs.Session.Run
import ReportLang.Proofs.Session.Supplied
import ReportLang.Proofs.Session.TypedValues
import ReportLang.Proofs.Session.Typing
import ReportLang.Proofs.Session.Writing
import ReportLang.Proofs.Statement.Chains
import ReportLang.Proofs.Statement.Segmenting
import ReportLang.Proofs.Statement.Sentences
import ReportLang.Proofs.Statement.Source
import ReportLang.Proofs.Text.Delimiter
import ReportLang.Proofs.Text.Engine
import ReportLang.Proofs.Text.LetterCase
import ReportLang.Proofs.Text.LowerCase
import ReportLang.Proofs.Text.Numeral
import ReportLang.Proofs.Text.Pattern
import ReportLang.Proofs.Text.Split
import ReportLang.Proofs.Update
import ReportLang.Proofs.Value.Agreement
import ReportLang.Proofs.Value.Arithmetic
import ReportLang.Proofs.Value.Change
import ReportLang.Proofs.Value.Conversion
import ReportLang.Proofs.Value.Field
import ReportLang.Proofs.Value.Mirror
import ReportLang.Proofs.Value.Order
import ReportLang.Proofs.Value.Padding
import ReportLang.Proofs.Value.Record
import ReportLang.Proofs.Value.Typing
