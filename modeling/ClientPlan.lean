import ClientPlan.Api.Basic
import ClientPlan.Api.Field
import ClientPlan.Api.Reader
import ClientPlan.Api.Version
import ClientPlan.Command.Arguments
import ClientPlan.Command.Invocation
import ClientPlan.Command.Run
import ClientPlan.Config.Basic
import ClientPlan.Config.Fields
import ClientPlan.Config.Layers
import ClientPlan.Document.Calendar
import ClientPlan.Document.Reference
import ClientPlan.Document.Shown
import ClientPlan.Document.Value
import ClientPlan.Failure
import ClientPlan.Json.Reader
import ClientPlan.Json.Writer
import ClientPlan.Load.Address
import ClientPlan.Load.ContentType
import ClientPlan.Load.Dialect
import ClientPlan.Load.Document
import ClientPlan.Load.HostName
import ClientPlan.Main
import ClientPlan.Naming.Module
import ClientPlan.Naming.Operation
import ClientPlan.Naming.Template
import ClientPlan.Naming.Token
import ClientPlan.Number.Decimal
import ClientPlan.Number.Double
import ClientPlan.Number.Shortest
import ClientPlan.OrderedMap
import ClientPlan.Pattern.Basic
import ClientPlan.Pattern.Case
import ClientPlan.Pattern.Escape
import ClientPlan.Pattern.Fault
import ClientPlan.Pattern.Match
import ClientPlan.Pattern.Reader
import ClientPlan.Pattern.Reading
import ClientPlan.Plan.Discovery
import ClientPlan.Plan.Fields
import ClientPlan.Plan.Files
import ClientPlan.Plan.Logged
import ClientPlan.Plan.NameTable
import ClientPlan.Plan.Operations
import ClientPlan.Plan.Parameters
import ClientPlan.Plan.Policy
import ClientPlan.Plan.PolicyName
import ClientPlan.Plan.Record
import ClientPlan.Plan.Setting
import ClientPlan.Plan.State
import ClientPlan.Pointer.Basic
import ClientPlan.Pointer.Resolve
import ClientPlan.Proofs.Api.Agreement
import ClientPlan.Proofs.Api.Reader
import ClientPlan.Proofs.Api.Recorded
import ClientPlan.Proofs.Api.Requests
import ClientPlan.Proofs.Api.Ways
import ClientPlan.Proofs.Discovery.Bounded
import ClientPlan.Proofs.Discovery.Completeness
import ClientPlan.Proofs.Discovery.Grouping
import ClientPlan.Proofs.Discovery.Identity
import ClientPlan.Proofs.Discovery.Order
import ClientPlan.Proofs.Discovery.Progress
import ClientPlan.Proofs.Discovery.Reachable
import ClientPlan.Proofs.Discovery.Resolution
import ClientPlan.Proofs.Discovery.Sweep
import ClientPlan.Proofs.Discovery.Visit
import ClientPlan.Proofs.Document.Agreement
import ClientPlan.Proofs.Document.Components
import ClientPlan.Proofs.Document.Shape
import ClientPlan.Proofs.Document.TextKeys
import ClientPlan.Proofs.Load.Building
import ClientPlan.Proofs.Load.Document
import ClientPlan.Proofs.Load.Json
import ClientPlan.Proofs.Naming.Boundaries
import ClientPlan.Proofs.Naming.Homes
import ClientPlan.Proofs.Naming.Tags
import ClientPlan.Proofs.Naming.Token
import ClientPlan.Proofs.Naming.Usable
import ClientPlan.Proofs.Naming.Words
import ClientPlan.Proofs.OrderedMap
import ClientPlan.Proofs.Outcome
import ClientPlan.Proofs.Plan.Agreement
import ClientPlan.Proofs.Plan.Binding
import ClientPlan.Proofs.Plan.Blocks
import ClientPlan.Proofs.Plan.BodyOrder
import ClientPlan.Proofs.Plan.Bounded
import ClientPlan.Proofs.Plan.EarlyFailure
import ClientPlan.Proofs.Plan.FileNames
import ClientPlan.Proofs.Plan.FilePlan
import ClientPlan.Proofs.Plan.Files
import ClientPlan.Proofs.Plan.FunctionNames
import ClientPlan.Proofs.Plan.Locality
import ClientPlan.Proofs.Plan.ModuleNames
import ClientPlan.Proofs.Plan.Paths
import ClientPlan.Proofs.Plan.References
import ClientPlan.Proofs.Plan.Run
import ClientPlan.Proofs.Plan.Termination
import ClientPlan.Proofs.Plan.Unreferenced
import ClientPlan.Proofs.Pointer.Location
import ClientPlan.Proofs.Recursion
import ClientPlan.Proofs.Schema.Agreement
import ClientPlan.Proofs.Schema.Composition
import ClientPlan.Proofs.Schema.Encoding
import ClientPlan.Proofs.Schema.Flattening
import ClientPlan.Proofs.Schema.Following
import ClientPlan.Proofs.Schema.Merging
import ClientPlan.Proofs.Schema.Nullability
import ClientPlan.Proofs.Schema.Places
import ClientPlan.Proofs.Schema.TypeNames
import ClientPlan.Report.EmojiName
import ClientPlan.Report.Markup
import ClientPlan.Report.Reporter
import ClientPlan.Schema.Children
import ClientPlan.Schema.Declaration
import ClientPlan.Schema.Encoder
import ClientPlan.Schema.Outline
import ClientPlan.Schema.Type
import ClientPlan.Text.Base64
import ClientPlan.Text.Blank
import ClientPlan.Text.Cased
import ClientPlan.Text.Digit
import ClientPlan.Text.Letter
import ClientPlan.Text.Lower
import ClientPlan.Text.Printable
import ClientPlan.Text.Quoted
import ClientPlan.Text.Utf8
import ClientPlan.Text.Wrap
import ClientPlan.Workspace.DataDirectory
import ClientPlan.Workspace.FileTree
import ClientPlan.Workspace.Path
import ClientPlan.Workspace.Surroundings
import ClientPlan.Yaml.BlockScalar
import ClientPlan.Yaml.Lexer
import ClientPlan.Yaml.Node
import ClientPlan.Yaml.PlainScalar
import ClientPlan.Yaml.PlainType
import ClientPlan.Yaml.Property
import ClientPlan.Yaml.QuotedScalar
import ClientPlan.Yaml.Scalar
import ClientPlan.Yaml.Source
import ClientPlan.Yaml.Timestamp
import ClientPlan.Yaml.Token
import ClientPlan.Yaml.Value
import ClientPlan.Proofs.Plan.Fields
import ClientPlan.Proofs.Plan.RequiredFields
import ClientPlan.Proofs.Json.Quoting
import ClientPlan.Proofs.Json.Writing
import ClientPlan.Proofs.Workspace.Replacing
import ClientPlan.Proofs.Config.Saving
import ClientPlan.Proofs.Json.Faults
import ClientPlan.Proofs.Load.Composing
import ClientPlan.Proofs.Load.Refusing
import ClientPlan.Proofs.Load.Scanning
import ClientPlan.Proofs.Load.Failures
import ClientPlan.Proofs.Schema.Transparency
import ClientPlan.Proofs.Plan.Reconciling
import ClientPlan.Proofs.Plan.Aliases
import ClientPlan.Proofs.Discovery.Directives
import ClientPlan.Proofs.Pointer.Following
import ClientPlan.Proofs.Pointer.Navigation
import ClientPlan.Proofs.Workspace.Making
import ClientPlan.Proofs.Workspace.AllOrNothing
import ClientPlan.Proofs.Config.Layering
import ClientPlan.Proofs.Naming.Scanning
import ClientPlan.Proofs.Naming.Fallback
import ClientPlan.Proofs.Pointer.Building
import ClientPlan.Proofs.Report.Table
import ClientPlan.Proofs.Command.Cells
import ClientPlan.Proofs.Command.Listing
