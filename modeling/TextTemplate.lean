import TextTemplate.Code.Declaration
import TextTemplate.Code.Literal
import TextTemplate.Code.Program
import TextTemplate.Code.Writer
import TextTemplate.CommandLine.Commands
import TextTemplate.CommandLine.Flags
import TextTemplate.CommandLine.Usage
import TextTemplate.Config.Basic
import TextTemplate.Config.Hcl
import TextTemplate.Config.Load
import TextTemplate.Config.Yaml
import TextTemplate.Console.Log
import TextTemplate.Console.Style
import TextTemplate.Diagnostic
import TextTemplate.Diff.Report
import TextTemplate.Diff.Script
import TextTemplate.EditorConfig.Definition
import TextTemplate.EditorConfig.File
import TextTemplate.EditorConfig.Selector
import TextTemplate.Encoding.Basic
import TextTemplate.Encoding.Big5
import TextTemplate.Encoding.Chart
import TextTemplate.Encoding.CodePage
import TextTemplate.Encoding.EastAsian
import TextTemplate.Encoding.Gbk
import TextTemplate.Encoding.JisX0208
import TextTemplate.Encoding.JisX0212
import TextTemplate.Encoding.KsX1001
import TextTemplate.Encoding.Names
import TextTemplate.Files
import TextTemplate.Files.Find
import TextTemplate.Files.Glob
import TextTemplate.Hcl.Eval
import TextTemplate.Hcl.ExprReader
import TextTemplate.Hcl.Lexer
import TextTemplate.Hcl.Number
import TextTemplate.Hcl.Numeral
import TextTemplate.Hcl.Reader
import TextTemplate.Hcl.Syntax
import TextTemplate.Hcl.Template
import TextTemplate.Hcl.Token
import TextTemplate.Hcl.Ty
import TextTemplate.Hcl.Value
import TextTemplate.Host.Basic
import TextTemplate.Host.Parameters
import TextTemplate.Host.Run
import TextTemplate.Location
import TextTemplate.Main
import TextTemplate.NameMap
import TextTemplate.Output.Unit
import TextTemplate.Path
import TextTemplate.Processor.Basic
import TextTemplate.Processor.Parameter
import TextTemplate.Processor.Registry
import TextTemplate.Project.Build
import TextTemplate.Regex.Basic
import TextTemplate.Regex.Reader
import TextTemplate.Settings.Basic
import TextTemplate.Settings.Resolve
import TextTemplate.Settings.Version
import TextTemplate.Template.Attributes
import TextTemplate.Template.Event
import TextTemplate.Template.Outline
import TextTemplate.Template.Parsed
import TextTemplate.Template.Scan
import TextTemplate.Template.Segment
import TextTemplate.Text.Base64
import TextTemplate.Text.Basic
import TextTemplate.Text.Blank
import TextTemplate.Text.Case
import TextTemplate.Text.Cluster
import TextTemplate.Text.CombiningClass
import TextTemplate.Text.Composite
import TextTemplate.Text.Format
import TextTemplate.Text.NameChar
import TextTemplate.Text.NaturalOrder
import TextTemplate.Text.Normal
import TextTemplate.Text.Number
import TextTemplate.Text.Printable
import TextTemplate.Text.Quoted
import TextTemplate.Text.Rune
import TextTemplate.Yaml.Character
import TextTemplate.Yaml.Cursor
import TextTemplate.Yaml.Lexer
import TextTemplate.Yaml.Node
import TextTemplate.Yaml.Printer
import TextTemplate.Yaml.Reader
import TextTemplate.Yaml.Scalar
import TextTemplate.Yaml.ScalarReader
import TextTemplate.Yaml.Token
import TextTemplate.Proofs.Include.Deferral
import TextTemplate.Proofs.Include.Termination
import TextTemplate.Proofs.Template.RoundTrip
import TextTemplate.Proofs.Code.Quoting
import TextTemplate.Proofs.Code.Lines
import TextTemplate.Proofs.Output.Rendering
import TextTemplate.Proofs.Include.Once
import TextTemplate.Proofs.Output.LineMapping
import TextTemplate.Proofs.Template.Pattern
import TextTemplate.Proofs.Template.Grammar
import TextTemplate.Proofs.Template.Scanning
import TextTemplate.Proofs.Text.Counting
import TextTemplate.Proofs.Template.Positions
import TextTemplate.Proofs.Processor.Calls
import TextTemplate.Proofs.Settings.Resolution
import TextTemplate.Proofs.Processor.Lifecycle
import TextTemplate.Proofs.Include.Origin
import TextTemplate.Proofs.Host.Failure
import TextTemplate.Proofs.Text.Number
import TextTemplate.Proofs.Text.Lines
import TextTemplate.Proofs.Template.CodeLines
import TextTemplate.Proofs.Output.CodeText
import TextTemplate.Proofs.Output.LineReading
import TextTemplate.Proofs.Output.Attribution
import TextTemplate.Proofs.Processor.Cache
import TextTemplate.Proofs.Processor.Requests
import TextTemplate.Proofs.Processor.Interleaving
import TextTemplate.Proofs.Processor.Isolation
import TextTemplate.Proofs.Host.Independence
import TextTemplate.Proofs.Files.Footprint
import TextTemplate.Proofs.Host.Lookups
import TextTemplate.Proofs.Host.Bare
import TextTemplate.Proofs.Project.Step
import TextTemplate.Proofs.Project.Order
import TextTemplate.Proofs.Settings.Wiring
import TextTemplate.Proofs.Code.LiteralForm
import TextTemplate.Proofs.Include.Splicing
import TextTemplate.Proofs.Include.Trailing
import TextTemplate.Proofs.Template.Attributes
import TextTemplate.Proofs.Settings.Effect
import TextTemplate.Proofs.Settings.Decision
import TextTemplate.Proofs.Include.Tag
import TextTemplate.Proofs.Settings.Leftover
import TextTemplate.Proofs.Settings.Shuffle
import TextTemplate.Proofs.Settings.NameSet
import TextTemplate.Proofs.Output.Usings
import TextTemplate.Proofs.Template.QuotedValue
import TextTemplate.Proofs.Include.Draining
import TextTemplate.Proofs.Template.Reports
import TextTemplate.Proofs.Include.Turns
import TextTemplate.Proofs.Code.Wrapping
import TextTemplate.Proofs.Code.Chunks
import TextTemplate.Proofs.Code.Runs
import TextTemplate.Proofs.Code.LineEnd
import TextTemplate.Proofs.Code.Nesting
import TextTemplate.Proofs.Processor.InitialValue
import TextTemplate.Proofs.Host.Parameters
import TextTemplate.Proofs.Diff.Script
import TextTemplate.Proofs.Diff.Report
import TextTemplate.Proofs.Code.IndentStack
import TextTemplate.Proofs.Template.AttributeCalls
import TextTemplate.Proofs.Code.Summary
