import SqlAlgebra.CommandLine.Arguments
import SqlAlgebra.CommandLine.Run
import SqlAlgebra.Configuration.Lenient
import SqlAlgebra.Configuration.Load
import SqlAlgebra.Configuration.Tree
import SqlAlgebra.Conversion.Dispatch
import SqlAlgebra.Conversion.Engine
import SqlAlgebra.Conversion.Error
import SqlAlgebra.Conversion.Event
import SqlAlgebra.Conversion.Expression
import SqlAlgebra.Conversion.Modification
import SqlAlgebra.Conversion.Projection
import SqlAlgebra.Conversion.Registry
import SqlAlgebra.Conversion.Script
import SqlAlgebra.Conversion.Select
import SqlAlgebra.Conversion.Session
import SqlAlgebra.Conversion.Table
import SqlAlgebra.Ini.Parser
import SqlAlgebra.Json.Basic
import SqlAlgebra.Json.Number
import SqlAlgebra.Json.Parser
import SqlAlgebra.Json.Printer
import SqlAlgebra.Json5.Parser
import SqlAlgebra.Kind
import SqlAlgebra.Main
import SqlAlgebra.Operator.Basic
import SqlAlgebra.Operator.Table
import SqlAlgebra.Plan.Basic
import SqlAlgebra.Plan.Render
import SqlAlgebra.Proofs.Abridgement
import SqlAlgebra.Proofs.Absence
import SqlAlgebra.Proofs.Acceptance
import SqlAlgebra.Proofs.Arity
import SqlAlgebra.Proofs.Assignment
import SqlAlgebra.Proofs.Blocks
import SqlAlgebra.Proofs.Composition
import SqlAlgebra.Proofs.Edits
import SqlAlgebra.Proofs.Embedding
import SqlAlgebra.Proofs.Ensures
import SqlAlgebra.Proofs.Failure
import SqlAlgebra.Proofs.Form
import SqlAlgebra.Proofs.Grammar
import SqlAlgebra.Proofs.Independence
import SqlAlgebra.Proofs.Inversion
import SqlAlgebra.Proofs.Lexical
import SqlAlgebra.Proofs.Locality
import SqlAlgebra.Proofs.Logging
import SqlAlgebra.Proofs.Lookup
import SqlAlgebra.Proofs.Naming
import SqlAlgebra.Proofs.NormalForm
import SqlAlgebra.Proofs.Numbering
import SqlAlgebra.Proofs.Outline
import SqlAlgebra.Proofs.PlanCodec
import SqlAlgebra.Proofs.Program
import SqlAlgebra.Proofs.Quotation
import SqlAlgebra.Proofs.Recovery
import SqlAlgebra.Proofs.Reference
import SqlAlgebra.Proofs.Refusal
import SqlAlgebra.Proofs.Registration
import SqlAlgebra.Proofs.Removal
import SqlAlgebra.Proofs.ReportCodec
import SqlAlgebra.Proofs.Resolution
import SqlAlgebra.Proofs.Restoration
import SqlAlgebra.Proofs.Run
import SqlAlgebra.Proofs.Saturation
import SqlAlgebra.Proofs.Scoping
import SqlAlgebra.Proofs.Spelled
import SqlAlgebra.Proofs.Spelling
import SqlAlgebra.Proofs.StatementCodec
import SqlAlgebra.Proofs.Strictness
import SqlAlgebra.Proofs.Suggestion
import SqlAlgebra.Proofs.Threshold
import SqlAlgebra.Proofs.Traversal
import SqlAlgebra.Proofs.Vocabulary
import SqlAlgebra.Proofs.WellFormed
import SqlAlgebra.Proofs.Wholeness
import SqlAlgebra.Report.Basic
import SqlAlgebra.Report.Code
import SqlAlgebra.Report.Setting
import SqlAlgebra.Ron.Parser
import SqlAlgebra.Segment.Basic
import SqlAlgebra.Segment.Build
import SqlAlgebra.Segment.Tree
import SqlAlgebra.Settings
import SqlAlgebra.Span
import SqlAlgebra.Text.EditDistance
import SqlAlgebra.Text.Hidden
import SqlAlgebra.Text.Numeral
import SqlAlgebra.Text.Quoted
import SqlAlgebra.Text.Reading
import SqlAlgebra.Text.Words
import SqlAlgebra.Toml.Parser
import SqlAlgebra.Toml.Scalar
import SqlAlgebra.Toml.Table
import SqlAlgebra.Toml.Text
import SqlAlgebra.Wire.Fault
import SqlAlgebra.Wire.Plan
import SqlAlgebra.Wire.Reader
import SqlAlgebra.Wire.Report
import SqlAlgebra.Wire.Segment
import SqlAlgebra.Wire.Settings
import SqlAlgebra.Yaml.Block
import SqlAlgebra.Yaml.Cursor
import SqlAlgebra.Yaml.Folded
import SqlAlgebra.Yaml.Layout
import SqlAlgebra.Yaml.Node
import SqlAlgebra.Yaml.Parser
import SqlAlgebra.Yaml.Printer
import SqlAlgebra.Yaml.Property
import SqlAlgebra.Yaml.Token
