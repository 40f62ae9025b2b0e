import Quarry.Analysis.Error
import Quarry.Analysis.Nodes
import Quarry.Analysis.Scope
import Quarry.Analysis.Settled
import Quarry.Analysis.Typing
import Quarry.Buffer.Schema
import Quarry.Buffer.Store
import Quarry.Command.Arguments
import Quarry.Command.Printout
import Quarry.Command.Response
import Quarry.Download.Batch
import Quarry.Download.Pool
import Quarry.Download.Wire
import Quarry.Json.Basic
import Quarry.Json.Number
import Quarry.Json.Parser
import Quarry.Json.Printer
import Quarry.Json.Rows
import Quarry.Main
import Quarry.Number.Binary
import Quarry.Number.Decimal
import Quarry.Number.FloatParts
import Quarry.Number.Layout
import Quarry.Number.Reading
import Quarry.Number.Rounding
import Quarry.Number.Shortest
import Quarry.Page.Draft
import Quarry.Page.Formatting
import Quarry.Page.Frame
import Quarry.Page.NamedCharacter
import Quarry.Page.Node
import Quarry.Page.Parse
import Quarry.Page.RawText
import Quarry.Page.Reference
import Quarry.Page.Rules
import Quarry.Page.Spot
import Quarry.Page.Token
import Quarry.Pattern.Basic
import Quarry.Pattern.CharSet
import Quarry.Pattern.Flags
import Quarry.Pattern.Matcher
import Quarry.Pattern.Parser
import Quarry.Pattern.Program
import Quarry.Pattern.Search
import Quarry.Pattern.Template
import Quarry.Plan.Basic
import Quarry.Plan.Generate
import Quarry.Proofs.Download.Drain
import Quarry.Proofs.Download.Interleaving
import Quarry.Proofs.Download.PoolSafety
import Quarry.Proofs.Download.Progress
import Quarry.Proofs.Except
import Quarry.Proofs.Plan.Shape
import Quarry.Proofs.Run.Sequential
import Quarry.Run.Candidate
import Quarry.Run.Error
import Quarry.Run.Execution
import Quarry.Run.Extractor
import Quarry.Run.Intake
import Quarry.Script.Expr
import Quarry.Script.Lexeme
import Quarry.Script.Parser.Basic
import Quarry.Script.Parser.Expr
import Quarry.Script.Parser.Statement
import Quarry.Script.Picks
import Quarry.Script.Position
import Quarry.Script.Statement
import Quarry.Script.Token
import Quarry.Selector.Basic
import Quarry.Selector.Matching
import Quarry.Selector.Parser
import Quarry.Selector.Token
import Quarry.Settings
import Quarry.Table.Basic
import Quarry.Table.Document
import Quarry.Table.Grid
import Quarry.Table.Render
import Quarry.Text.Alphabetic
import Quarry.Text.Blank
import Quarry.Text.CaseFold
import Quarry.Text.Caseless
import Quarry.Text.Category
import Quarry.Text.CodeRanges
import Quarry.Text.Numeric
import Quarry.Text.Printable
import Quarry.Text.Quoted
import Quarry.Text.Utf8
import Quarry.Text.Word
import Quarry.Text.WritingSystem
import Quarry.Value.Arithmetic
import Quarry.Value.Basic
import Quarry.Value.Convert
import Quarry.Value.Numeric
import Quarry.Value.Operator
import Quarry.Value.Type
import Quarry.Proofs.Run.Refinement
import Quarry.Proofs.Plan.Typing
import Quarry.Proofs.Plan.Generation
import Quarry.Proofs.Run.Rows
import Quarry.Proofs.Run.Stores
import Quarry.Proofs.Run.Scripts
import Quarry.Proofs.Run.WellFormed
import Quarry.Proofs.Run.Soundness
import Quarry.Proofs.Buffer.History
import Quarry.Proofs.Run.Preparation
import Quarry.Proofs.Script.Composition
import Quarry.Proofs.Script.Roundtrip
import Quarry.Proofs.Script.Rendering
import Quarry.Proofs.Json.Members
import Quarry.Proofs.Run.Conjuncts
import Quarry.Proofs.Text.Blank
import Quarry.Proofs.Number.Integers
import Quarry.Proofs.Table.Keys
import Quarry.Proofs.Value.Exactness
import Quarry.Proofs.Run.Choice
import Quarry.Proofs.Value.Refusal
import Quarry.Proofs.Plan.Naming
import Quarry.Proofs.Plan.Explicit
import Quarry.Proofs.Pattern.Replacement
import Quarry.Proofs.Download.FileNames
import Quarry.Proofs.Json.Rows
import Quarry.Proofs.Run.Copying
import Quarry.Proofs.Value.Comparison
import Quarry.Proofs.Table.Grid
import Quarry.Proofs.Script.Pieces
import Quarry.Proofs.Number.PlainText
import Quarry.Proofs.Number.Nearest
import Quarry.Proofs.Number.Decimals
import Quarry.Proofs.Number.Shortest
import Quarry.Proofs.Number.ReadBack
import Quarry.Proofs.Value.Texts
import Quarry.Proofs.Script.Signs
import Quarry.Proofs.Plan.Counting
import Quarry.Proofs.Plan.Pointing
