import DraftLisp.Arity
import DraftLisp.Bindings
import DraftLisp.Broker
import DraftLisp.Builtin.Arithmetic
import DraftLisp.Builtin.Asking
import DraftLisp.Builtin.Basic
import DraftLisp.Builtin.Comparison
import DraftLisp.Builtin.Editing
import DraftLisp.Builtin.Lists
import DraftLisp.Builtin.Predicates
import DraftLisp.Builtin.Registry
import DraftLisp.Builtin.Selections
import DraftLisp.Builtin.Strings
import DraftLisp.Console
import DraftLisp.Console.Typed
import DraftLisp.Drawing
import DraftLisp.Entity
import DraftLisp.Entity.Groups
import DraftLisp.Error
import DraftLisp.Evaluation
import DraftLisp.Evaluation.Apply
import DraftLisp.Evaluation.Callable
import DraftLisp.Evaluation.Run
import DraftLisp.Evaluation.SpecialForm
import DraftLisp.Evaluation.State
import DraftLisp.Form
import DraftLisp.Form.Reader
import DraftLisp.Form.Text
import DraftLisp.Geometry
import DraftLisp.Geometry.Point
import DraftLisp.Input
import DraftLisp.Input.Answer
import DraftLisp.Interpreter
import DraftLisp.Json
import DraftLisp.Json.Numeral
import DraftLisp.Json.Reader
import DraftLisp.Json.Text
import DraftLisp.Main
import DraftLisp.Numeric.Decimal
import DraftLisp.Numeric.Dyadic
import DraftLisp.Numeric.Fixed
import DraftLisp.Numeric.Nearest
import DraftLisp.Numeric.Shortest
import DraftLisp.Proofs.Broker.History
import DraftLisp.Proofs.Builtin.Answers
import DraftLisp.Proofs.Builtin.CommonDivisor
import DraftLisp.Proofs.Builtin.Counted
import DraftLisp.Proofs.Builtin.Demanded
import DraftLisp.Proofs.Builtin.Equality
import DraftLisp.Proofs.Builtin.LeadingInteger
import DraftLisp.Proofs.Builtin.ListSearch
import DraftLisp.Proofs.Builtin.Membership
import DraftLisp.Proofs.Builtin.ReadBack
import DraftLisp.Proofs.Builtin.ReadData
import DraftLisp.Proofs.Builtin.Search
import DraftLisp.Proofs.Builtin.Settled
import DraftLisp.Proofs.Console.Mirrored
import DraftLisp.Proofs.Console.Played
import DraftLisp.Proofs.Console.TypedText
import DraftLisp.Proofs.Direct.Evaluation
import DraftLisp.Proofs.Direct.Playback
import DraftLisp.Proofs.Direct.Tape
import DraftLisp.Proofs.Drawing.CommandCalls
import DraftLisp.Proofs.Drawing.Commands
import DraftLisp.Proofs.Drawing.Effects
import DraftLisp.Proofs.Drawing.FieldChange
import DraftLisp.Proofs.Drawing.Histories
import DraftLisp.Proofs.Drawing.Journal
import DraftLisp.Proofs.Drawing.Saved
import DraftLisp.Proofs.Drawing.Selected
import DraftLisp.Proofs.Drawing.Sessions
import DraftLisp.Proofs.Drawing.Store
import DraftLisp.Proofs.Drawing.Succession
import DraftLisp.Proofs.Drawing.Walk
import DraftLisp.Proofs.Entity.Described
import DraftLisp.Proofs.Entity.Exchanged
import DraftLisp.Proofs.Entity.Slots
import DraftLisp.Proofs.Entity.Vertices
import DraftLisp.Proofs.Evaluation.Application
import DraftLisp.Proofs.Evaluation.Blamed
import DraftLisp.Proofs.Evaluation.Calls
import DraftLisp.Proofs.Evaluation.Composed
import DraftLisp.Proofs.Evaluation.Congruence
import DraftLisp.Proofs.Evaluation.DepthLimit
import DraftLisp.Proofs.Evaluation.Frames
import DraftLisp.Proofs.Evaluation.Given
import DraftLisp.Proofs.Evaluation.Isolation
import DraftLisp.Proofs.Evaluation.Kept
import DraftLisp.Proofs.Evaluation.Nesting
import DraftLisp.Proofs.Evaluation.Observed
import DraftLisp.Proofs.Evaluation.Proper
import DraftLisp.Proofs.Evaluation.Quotation
import DraftLisp.Proofs.Evaluation.Refused
import DraftLisp.Proofs.Evaluation.Rewritten
import DraftLisp.Proofs.Evaluation.Termination
import DraftLisp.Proofs.Execution.Closing
import DraftLisp.Proofs.Execution.Dialogue
import DraftLisp.Proofs.Execution.Endings
import DraftLisp.Proofs.Execution.Growth
import DraftLisp.Proofs.Execution.Miscounts
import DraftLisp.Proofs.Execution.Parts
import DraftLisp.Proofs.Execution.Reports
import DraftLisp.Proofs.Execution.Responses
import DraftLisp.Proofs.Execution.Script
import DraftLisp.Proofs.Execution.Session
import DraftLisp.Proofs.Execution.Suspension
import DraftLisp.Proofs.Execution.Waiting
import DraftLisp.Proofs.Form.Converted
import DraftLisp.Proofs.Form.Grammar
import DraftLisp.Proofs.Form.Limits
import DraftLisp.Proofs.Form.Lines
import DraftLisp.Proofs.Form.Mentioned
import DraftLisp.Proofs.Form.Nilled
import DraftLisp.Proofs.Form.Readable
import DraftLisp.Proofs.Form.Reading
import DraftLisp.Proofs.Form.RoundTrip
import DraftLisp.Proofs.Form.Unclosed
import DraftLisp.Proofs.Input.Encodings
import DraftLisp.Proofs.Numeric.Counting
import DraftLisp.Proofs.Numeric.Difference
import DraftLisp.Proofs.Numeric.Digits
import DraftLisp.Proofs.Numeric.FloatBits
import DraftLisp.Proofs.Numeric.Integers
import DraftLisp.Proofs.Numeric.NearestExact
import DraftLisp.Proofs.Numeric.NumeralCase
import DraftLisp.Proofs.Numeric.ShortestRead
import DraftLisp.Proofs.Numeric.Truncated
import DraftLisp.Proofs.Simulation.Editing
import DraftLisp.Proofs.Simulation.Evaluation
import DraftLisp.Proofs.Simulation.Likeness
import DraftLisp.Proofs.Simulation.Operators
import DraftLisp.Proofs.Simulation.Outcomes
import DraftLisp.Proofs.Simulation.Runs
import DraftLisp.Proofs.Simulation.Values
import DraftLisp.Proofs.Text.Casing
import DraftLisp.Proofs.Token.Canonical
import DraftLisp.Proofs.Token.Excerpts
import DraftLisp.Proofs.Token.Lexemes
import DraftLisp.Proofs.Token.Spelled
import DraftLisp.Proofs.Value.Equality
import DraftLisp.Text.Blank
import DraftLisp.Text.Casing
import DraftLisp.Text.Casing.Context
import DraftLisp.Text.Casing.Lower
import DraftLisp.Text.Casing.Run
import DraftLisp.Text.Casing.Upper
import DraftLisp.Text.CodeRange
import DraftLisp.Text.Escaped
import DraftLisp.Text.Printable
import DraftLisp.Text.Quoted
import DraftLisp.Token
import DraftLisp.Token.Excerpt
import DraftLisp.Token.Lexer
import DraftLisp.Value
import DraftLisp.Value.Expect
import DraftLisp.Value.Text
