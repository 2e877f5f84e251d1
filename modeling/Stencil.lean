import Stencil.CommandLine.Grammar
import Stencil.CommandLine.Invocation
import Stencil.CommandLine.Markup
import Stencil.CommandLine.Run
import Stencil.Config
import Stencil.Decimal.Binary
import Stencil.Decimal.Notation
import Stencil.Decimal.Reading
import Stencil.Decimal.Shortest
import Stencil.Digest.Sha256
import Stencil.Disk.Basic
import Stencil.Disk.Path
import Stencil.Disk.Task
import Stencil.Document.Loading
import Stencil.Document.Reader
import Stencil.Document.Url
import Stencil.Engine.Rendering
import Stencil.Engine.Session
import Stencil.Engine.Source
import Stencil.Engine.Store
import Stencil.Entity
import Stencil.Fault
import Stencil.Helper.Block
import Stencil.Helper.Call
import Stencil.Helper.Casing
import Stencil.Helper.Kinds
import Stencil.Helper.References
import Stencil.Helper.Sources
import Stencil.Helper.Structure
import Stencil.Helper.Switch
import Stencil.Helper.Table
import Stencil.Job
import Stencil.Json.Parser
import Stencil.Json.Printer
import Stencil.Kind
import Stencil.Language.Call
import Stencil.Language.Formatting
import Stencil.Language.Words
import Stencil.Log
import Stencil.Main
import Stencil.Name.Sanitizer
import Stencil.Name.Style
import Stencil.Name.Words
import Stencil.Output.Directive
import Stencil.Output.File
import Stencil.Output.Tidy
import Stencil.Output.Writer
import Stencil.Reference.Resolver
import Stencil.Reference.TypeText
import Stencil.Registry
import Stencil.Target.Basic
import Stencil.Target.Generate
import Stencil.Target.Pipeline
import Stencil.Target.Templates
import Stencil.Template.Access
import Stencil.Template.Check
import Stencil.Template.Filter
import Stencil.Template.Parser
import Stencil.Template.Renderer
import Stencil.Template.Run
import Stencil.Template.Scope
import Stencil.Template.Syntax
import Stencil.Template.Token
import Stencil.Template.Traversal
import Stencil.Text.Basic
import Stencil.Text.Blank
import Stencil.Text.Case
import Stencil.Text.CaseTable
import Stencil.Text.Escape
import Stencil.Text.Numeral
import Stencil.Text.Order
import Stencil.Text.Printable
import Stencil.Text.Quoted
import Stencil.Text.Utf8
import Stencil.Text.Word
import Stencil.Value.Arithmetic
import Stencil.Value.Basic
import Stencil.Value.Display
import Stencil.Value.Iterate
import Stencil.Value.Number
import Stencil.Yaml.Cursor
import Stencil.Yaml.Parser
import Stencil.Yaml.Resolution
import Stencil.Yaml.Scalar
import Stencil.Yaml.Token
import Stencil.Proofs.Config
import Stencil.Proofs.Disk.Directories
import Stencil.Proofs.Disk.Growth
import Stencil.Proofs.Disk.Path
import Stencil.Proofs.Disk.Route
import Stencil.Proofs.Disk.Task
import Stencil.Proofs.Disk.Trail
import Stencil.Proofs.Disk.Tree
import Stencil.Proofs.Disk.Walk
import Stencil.Proofs.Engine.Excerpt
import Stencil.Proofs.Engine.Extract
import Stencil.Proofs.Engine.Mirror
import Stencil.Proofs.Engine.Session
import Stencil.Proofs.Engine.Store
import Stencil.Proofs.Engine.Switches
import Stencil.Proofs.Entity
import Stencil.Proofs.Entity.Grouping
import Stencil.Proofs.Helper.Blocks
import Stencil.Proofs.Helper.Documents
import Stencil.Proofs.Helper.Forms
import Stencil.Proofs.Helper.Scopes
import Stencil.Proofs.Helper.Structure
import Stencil.Proofs.Helper.Switches
import Stencil.Proofs.Helper.Table
import Stencil.Proofs.Helper.Usage
import Stencil.Proofs.Helper.ValueType
import Stencil.Proofs.Job
import Stencil.Proofs.Json.Objects
import Stencil.Proofs.Json.RoundTrip
import Stencil.Proofs.Json.Scalars
import Stencil.Proofs.Kind.Comparison
import Stencil.Proofs.Kind.Mention
import Stencil.Proofs.Kind.Normal
import Stencil.Proofs.Kind.Query
import Stencil.Proofs.Kind.Reading
import Stencil.Proofs.Kind.Request
import Stencil.Proofs.Language.Identifiers
import Stencil.Proofs.Language.Literals
import Stencil.Proofs.Loading
import Stencil.Proofs.Name.Cleaning
import Stencil.Proofs.Name.Cuts
import Stencil.Proofs.Name.Repetition
import Stencil.Proofs.Name.Styles
import Stencil.Proofs.Name.Words
import Stencil.Proofs.Output.Confinement
import Stencil.Proofs.Output.History
import Stencil.Proofs.Output.Keeping
import Stencil.Proofs.Output.Modes
import Stencil.Proofs.Output.Opening
import Stencil.Proofs.Output.Records
import Stencil.Proofs.Output.Repetition
import Stencil.Proofs.Output.RoundTrip
import Stencil.Proofs.Output.Steps
import Stencil.Proofs.Output.Tidy
import Stencil.Proofs.Output.Validity
import Stencil.Proofs.Output.Writing
import Stencil.Proofs.Reference.Discovery
import Stencil.Proofs.Reference.Expression
import Stencil.Proofs.Reference.Fields
import Stencil.Proofs.Reference.Passages
import Stencil.Proofs.Reference.Reading
import Stencil.Proofs.Reference.Spelling
import Stencil.Proofs.Registration
import Stencil.Proofs.Registry
import Stencil.Proofs.Target.Enclosure
import Stencil.Proofs.Target.Failure
import Stencil.Proofs.Target.Generation
import Stencil.Proofs.Target.Independence
import Stencil.Proofs.Target.Listing
import Stencil.Proofs.Target.Polish
import Stencil.Proofs.Target.Stages
import Stencil.Proofs.Target.Templates
import Stencil.Proofs.Template.Access
import Stencil.Proofs.Template.Evaluation
import Stencil.Proofs.Template.Execution
import Stencil.Proofs.Template.Filter
import Stencil.Proofs.Template.Renderer
import Stencil.Proofs.Text.Ascii
import Stencil.Proofs.Text.Beginning
import Stencil.Proofs.Text.Case
import Stencil.Proofs.Text.Cut
import Stencil.Proofs.Text.Encoding
import Stencil.Proofs.Text.Ending
import Stencil.Proofs.Text.Fields
import Stencil.Proofs.Text.Lines
import Stencil.Proofs.Text.Numeral
import Stencil.Proofs.Text.Order
import Stencil.Proofs.Text.Utf8
import Stencil.Proofs.Value.Entries
import Stencil.Proofs.Value.Fields
import Stencil.Proofs.Value.Operators
import Stencil.Proofs.Value.Reading
import Stencil.Proofs.Value.Renaming
