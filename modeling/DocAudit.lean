import DocAudit.Calendar
import DocAudit.Check.Basic
import DocAudit.Check.Builtin
import DocAudit.Check.Content
import DocAudit.Check.Decisions
import DocAudit.Check.Declarative
import DocAudit.Check.Links
import DocAudit.Check.Naming
import DocAudit.Check.Navigation
import DocAudit.Check.Structure
import DocAudit.Check.Traces
import DocAudit.CommandLine.Arguments
import DocAudit.CommandLine.Command
import DocAudit.CommandLine.Run
import DocAudit.Decimal.Double
import DocAudit.Decimal.Shortest
import DocAudit.Error
import DocAudit.Fault
import DocAudit.Glob
import DocAudit.Main
import DocAudit.Markdown.Label
import DocAudit.Markdown.Link
import DocAudit.Markdown.Table
import DocAudit.Path
import DocAudit.Pattern.Basic
import DocAudit.Pattern.CharClass
import DocAudit.Pattern.NameTable
import DocAudit.Pattern.Reader
import DocAudit.Project
import DocAudit.Proofs.Check.Alike
import DocAudit.Proofs.Check.Content
import DocAudit.Proofs.Check.Exclusion
import DocAudit.Proofs.Check.Fault
import DocAudit.Proofs.Check.Links
import DocAudit.Proofs.Check.Phase
import DocAudit.Proofs.Check.Placement
import DocAudit.Proofs.Check.Reason
import DocAudit.Proofs.Check.Specs
import DocAudit.Proofs.Check.Title
import DocAudit.Proofs.Check.Violation
import DocAudit.Proofs.Except
import DocAudit.Proofs.Glob
import DocAudit.Proofs.Glob.Meaning
import DocAudit.Proofs.Markdown.Heading
import DocAudit.Proofs.Markdown.Label
import DocAudit.Proofs.Markdown.Line
import DocAudit.Proofs.Markdown.Link
import DocAudit.Proofs.Markdown.Table
import DocAudit.Proofs.Path
import DocAudit.Proofs.Path.Below
import DocAudit.Proofs.Path.Inside
import DocAudit.Proofs.Path.Lexical
import DocAudit.Proofs.Path.Long
import DocAudit.Proofs.Path.Plain
import DocAudit.Proofs.Path.Relative
import DocAudit.Proofs.Pattern.Line
import DocAudit.Proofs.Pattern.Meaning
import DocAudit.Proofs.Pattern.Repetition
import DocAudit.Proofs.Project
import DocAudit.Proofs.Project.Alike
import DocAudit.Proofs.Project.Directory
import DocAudit.Proofs.Project.Disk
import DocAudit.Proofs.Project.Query
import DocAudit.Proofs.Project.Shape
import DocAudit.Proofs.Project.Snapshot
import DocAudit.Proofs.Project.View
import DocAudit.Proofs.Project.Walk
import DocAudit.Proofs.Report.Json.Spelling
import DocAudit.Proofs.Report.Json.Reader
import DocAudit.Proofs.Report.Record
import DocAudit.Proofs.Rule.Acceptance
import DocAudit.Proofs.Rule.Circle
import DocAudit.Proofs.Rule.Dependency
import DocAudit.Proofs.Rule.Document
import DocAudit.Proofs.Rule.File
import DocAudit.Proofs.Rule.Order
import DocAudit.Proofs.Rule.Placing
import DocAudit.Proofs.Rule.Queue
import DocAudit.Proofs.Rule.Refusal
import DocAudit.Proofs.Rule.Trimming
import DocAudit.Proofs.Rule.Writing
import DocAudit.Proofs.Scan.Filter
import DocAudit.Proofs.Scan.Listing
import DocAudit.Proofs.Scan.Outside
import DocAudit.Proofs.Scan.Part
import DocAudit.Proofs.Scan.Report
import DocAudit.Proofs.Scan.Run
import DocAudit.Proofs.Schema
import DocAudit.Proofs.Schema.CamelCase
import DocAudit.Proofs.Server.Access
import DocAudit.Proofs.Server.Request
import DocAudit.Proofs.Server.Scan
import DocAudit.Proofs.Sorting
import DocAudit.Proofs.Spec.Alike
import DocAudit.Proofs.Spec.Chain
import DocAudit.Proofs.Spec.Completeness
import DocAudit.Proofs.Spec.Corpus
import DocAudit.Proofs.Spec.CrossReference
import DocAudit.Proofs.Spec.Inventory
import DocAudit.Proofs.Spec.KeySpelling
import DocAudit.Proofs.Spec.Name
import DocAudit.Proofs.Spec.Page
import DocAudit.Proofs.Spec.Reading
import DocAudit.Proofs.Spec.Record
import DocAudit.Proofs.Spec.Reference
import DocAudit.Proofs.Spec.Related
import DocAudit.Proofs.Spec.RequirementId
import DocAudit.Proofs.Spec.Resolution
import DocAudit.Proofs.Spec.SharedId
import DocAudit.Proofs.Spec.Stem
import DocAudit.Proofs.Spec.Subject
import DocAudit.Proofs.Spec.TestRow
import DocAudit.Proofs.Spec.TestTrace
import DocAudit.Proofs.Spec.Title
import DocAudit.Proofs.Text.Integer
import DocAudit.Proofs.Text.Letter
import DocAudit.Proofs.Text.Lines
import DocAudit.Proofs.Text.Numeral
import DocAudit.Proofs.Text.Pieces
import DocAudit.Proofs.Text.Trim
import DocAudit.Proofs.Text.Utf8
import DocAudit.Proofs.Tree
import DocAudit.Proofs.Value
import DocAudit.Proofs.World
import DocAudit.Proofs.Yaml.Mapping
import DocAudit.Report.Json
import DocAudit.Report.Record
import DocAudit.Report.Text
import DocAudit.Rule.Basic
import DocAudit.Rule.Default
import DocAudit.Rule.Document
import DocAudit.Rule.Order
import DocAudit.Scan.Basic
import DocAudit.Scan.Entry
import DocAudit.Scan.Filter
import DocAudit.Scan.License
import DocAudit.Scan.Run
import DocAudit.Schema
import DocAudit.Server.Access
import DocAudit.Server.Basic
import DocAudit.Server.Guide
import DocAudit.Settings
import DocAudit.Spec.Corpus
import DocAudit.Spec.CrossReference
import DocAudit.Spec.Diagnostic
import DocAudit.Spec.Document
import DocAudit.Spec.File
import DocAudit.Spec.Page
import DocAudit.Spec.Validation
import DocAudit.Text.Blank
import DocAudit.Text.CaseTable
import DocAudit.Text.Letter
import DocAudit.Text.Lines
import DocAudit.Text.Numeral
import DocAudit.Text.Quoted
import DocAudit.Text.Search
import DocAudit.Text.UnprintableTable
import DocAudit.Text.Utf8
import DocAudit.Text.WordTable
import DocAudit.Toml.Document
import DocAudit.Toml.Failure
import DocAudit.Toml.Scalar
import DocAudit.Tree
import DocAudit.Value
import DocAudit.World
import DocAudit.Yaml.Document
import DocAudit.Yaml.Failure
import DocAudit.Yaml.Mark
import DocAudit.Yaml.Node
import DocAudit.Yaml.Node.Reader
import DocAudit.Yaml.Scalar
import DocAudit.Yaml.Token
import DocAudit.Yaml.Token.Lexer
import DocAudit.Yaml.Token.Scalar
import DocAudit.Yaml.Token.Word
