import HandlerDocs.Category
import HandlerDocs.CommandLine
import HandlerDocs.Config.Basic
import HandlerDocs.Config.OfToml
import HandlerDocs.Fields.Entry
import HandlerDocs.Fields.Traversal
import HandlerDocs.Files
import HandlerDocs.Generation
import HandlerDocs.Json.Decimal
import HandlerDocs.Json.Reader
import HandlerDocs.Json.Tree
import HandlerDocs.Main
import HandlerDocs.Program.ClassIndex
import HandlerDocs.Program.Handler
import HandlerDocs.Proofs.Fields.Collections
import HandlerDocs.Proofs.Fields.Comparison
import HandlerDocs.Proofs.Fields.Completion
import HandlerDocs.Proofs.Fields.Depth
import HandlerDocs.Proofs.Fields.Outcomes
import HandlerDocs.Proofs.Fields.Passes
import HandlerDocs.Proofs.Fields.Paths
import HandlerDocs.Proofs.Fields.Reports
import HandlerDocs.Proofs.Fields.Respelling
import HandlerDocs.Proofs.Fields.Stages
import HandlerDocs.Proofs.Fields.Statics
import HandlerDocs.Proofs.Fields.Unfolding
import HandlerDocs.Proofs.Fields.Wrapping
import HandlerDocs.Proofs.Generation.Handlers
import HandlerDocs.Proofs.Generation.Handover
import HandlerDocs.Proofs.Generation.Lookup
import HandlerDocs.Proofs.Generation.Routes
import HandlerDocs.Proofs.Json.Printing
import HandlerDocs.Proofs.Program.Lookup
import HandlerDocs.Proofs.Program.Slots
import HandlerDocs.Proofs.Request.Joining
import HandlerDocs.Proofs.Request.Literals
import HandlerDocs.Proofs.Request.Noise
import HandlerDocs.Proofs.Request.Parameters
import HandlerDocs.Proofs.Request.Placeholders
import HandlerDocs.Proofs.Request.Wrappers
import HandlerDocs.Proofs.Snapshot.Accepted
import HandlerDocs.Proofs.Snapshot.Reload
import HandlerDocs.Proofs.Snippet.Closed
import HandlerDocs.Proofs.Snippet.Layout
import HandlerDocs.Proofs.Snippet.Reading
import HandlerDocs.Proofs.Text.Ends
import HandlerDocs.Proofs.Text.Literal
import HandlerDocs.Proofs.Text.Quotes
import HandlerDocs.Proofs.Text.SnakeCase
import HandlerDocs.Proofs.TypeRef.Acceptance
import HandlerDocs.Proofs.TypeRef.Completion
import HandlerDocs.Proofs.TypeRef.Grammar
import HandlerDocs.Proofs.TypeRef.Names
import HandlerDocs.Proofs.TypeRef.RoundTrip
import HandlerDocs.Request.Extract
import HandlerDocs.Request.Mapping
import HandlerDocs.Snapshot.Declarations
import HandlerDocs.Snapshot.OfFile
import HandlerDocs.Snapshot.OfJson
import HandlerDocs.Snapshot.OfYaml
import HandlerDocs.Snapshot.ToJson
import HandlerDocs.Snippet
import HandlerDocs.Text.Alphanumeric
import HandlerDocs.Text.Basic
import HandlerDocs.Text.LetterCase
import HandlerDocs.Text.Quoted
import HandlerDocs.Text.StringLiteral
import HandlerDocs.Toml.Assignments
import HandlerDocs.Toml.Literal
import HandlerDocs.TypeRef.Basic
import HandlerDocs.TypeRef.Parser
import HandlerDocs.Yaml.Node
import HandlerDocs.Yaml.Scalar
import HandlerDocs.Yaml.Token
