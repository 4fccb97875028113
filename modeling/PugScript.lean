import PugScript.Builtin
import PugScript.Builtin.Compute
import PugScript.Builtin.Invoke
import PugScript.CommandLine
import PugScript.CommandLine.Help
import PugScript.CommandLine.Options
import PugScript.CommandLine.Transcript
import PugScript.DataType
import PugScript.Decimal.Arithmetic
import PugScript.Decimal.Binary
import PugScript.Decimal.Layout
import PugScript.Decimal.Numeral
import PugScript.Decimal.Power
import PugScript.Decimal.Shortest
import PugScript.Evaluation
import PugScript.Evaluation.Error
import PugScript.Evaluation.Expression
import PugScript.Evaluation.Machine
import PugScript.Evaluation.Operators
import PugScript.FileTree
import PugScript.Host
import PugScript.Host.Console
import PugScript.Host.Generator
import PugScript.Host.Memory
import PugScript.Journal.Code
import PugScript.Journal.Event
import PugScript.Journal.FileContext
import PugScript.Journal.Memory
import PugScript.Journal.Service
import PugScript.Json
import PugScript.Json.Number
import PugScript.Json.Reader
import PugScript.Json.Skip
import PugScript.Json.Text
import PugScript.Lexing
import PugScript.Lexing.Error
import PugScript.Lexing.Lexeme
import PugScript.Lexing.Lexer
import PugScript.Lexing.Statistics
import PugScript.Limits
import PugScript.Main
import PugScript.Proofs.Evaluation.Steps
import PugScript.Proofs.Evaluation.Success
import PugScript.Proofs.Token.Nesting
import PugScript.Run
import PugScript.Run.Error
import PugScript.Run.Events
import PugScript.Run.Report
import PugScript.ScriptFile
import PugScript.Session
import PugScript.Settings
import PugScript.Overflow
import PugScript.Source
import PugScript.Source.Search
import PugScript.Text.Blank
import PugScript.Text.Case
import PugScript.Text.CaseTable
import PugScript.Text.CodePoints
import PugScript.Text.Letter
import PugScript.Text.Plain
import PugScript.Text.Quoted
import PugScript.Text.Replace
import PugScript.Token
import PugScript.Token.Stream
import PugScript.Toml
import PugScript.Toml.Reader
import PugScript.Toml.Scalar
import PugScript.Toml.Text
import PugScript.Value
import PugScript.Value.Error
import PugScript.Value.Tagged
import PugScript.Variables
import PugScript.Proofs.Evaluation.Passing
import PugScript.Proofs.Evaluation.Extent
import PugScript.Proofs.Evaluation.Agreement
import PugScript.Proofs.Evaluation.Statements
import PugScript.Proofs.Lexing.Joining
import PugScript.Proofs.Session.Joined
import PugScript.Proofs.Program.Refinement
import PugScript.Proofs.Evaluation.Completion
import PugScript.Proofs.Evaluation.Counting
import PugScript.Proofs.Lexing.Grammar
import PugScript.Proofs.Lexing.Recognition
import PugScript.Proofs.Lexing.Coverage
import PugScript.Proofs.Lexing.Printing
import PugScript.Proofs.Lexing.Faults
import PugScript.Proofs.Evaluation.Termination
import PugScript.Proofs.Evaluation.Vocabulary
import PugScript.Proofs.Evaluation.Untaken
import PugScript.Proofs.Evaluation.StringLimit
import PugScript.Proofs.Variables
import PugScript.Proofs.Evaluation.Causes
import PugScript.Proofs.Evaluation.HostUse
import PugScript.Proofs.Run.Location
import PugScript.Proofs.Run.Layout
import PugScript.Proofs.Run.Reports
import PugScript.Proofs.Value.Tagged
import PugScript.Proofs.Evaluation.LoopLimit
import PugScript.Proofs.Evaluation.Depth
import PugScript.Proofs.Decimal.Order
import PugScript.Proofs.Evaluation.RepeatedElse
import PugScript.Proofs.Lexing.Concatenation
import PugScript.Proofs.Value.Order
import PugScript.Variables.Indexed
import PugScript.Proofs.Variables.Indexed
import PugScript.Proofs.Variables.History
import PugScript.Proofs.Lexing.Statistics
import PugScript.Proofs.Source.Search
import PugScript.Proofs.Source.Position
import PugScript.Proofs.Source.Underline
import PugScript.Proofs.Builtin.Slicing
import PugScript.Proofs.Value.Repetition
import PugScript.Proofs.Value.Integers
import PugScript.Proofs.Journal.Memory
import PugScript.Proofs.Token.Skipping
