import ApiDoc.Text.Property.Word
import ApiDoc.Text.Property.Digit
import ApiDoc.Text.Property.Blank
import ApiDoc.Text.Property.Identifier
import ApiDoc.Text.Property.Lowercase
import ApiDoc.Text.Segments
import ApiDoc.Value.Shown
import ApiDoc.Json.Reader
import ApiDoc.Json.Writer
import ApiDoc.Validation.Container
import ApiDoc.Schema.NodeReader
import ApiDoc.Schema.NodeWriter
import ApiDoc.Pattern.Scan
import ApiDoc.Pattern.Reader
import ApiDoc.Pattern.Match
import ApiDoc.Schema.Basic
import ApiDoc.Schema.Reference
import ApiDoc.Http.Status
import ApiDoc.Router.Reader
import ApiDoc.Router.Writer
import ApiDoc.Router.Collection
import ApiDoc.Api
import ApiDoc.RouteFile
import ApiDoc.Yaml.Writer
import ApiDoc.OpenApi.Check
import ApiDoc.CommandLine.Run
import ApiDoc.Main
import ApiDoc.Proofs.Named
import ApiDoc.Proofs.Work
import ApiDoc.Proofs.Schema.Parts
import ApiDoc.Proofs.Schema.Translation
import ApiDoc.Proofs.Operation.Recorded
import ApiDoc.Proofs.Schema.Positions
import ApiDoc.Proofs.Document.Draft
import ApiDoc.Proofs.Document.Positions
import ApiDoc.Proofs.Document.References
import ApiDoc.Proofs.Document.Routes
import ApiDoc.Proofs.Operation.Outputs
import ApiDoc.Proofs.Number
import ApiDoc.Proofs.Schema.WellFormed
import ApiDoc.Proofs.Schema.Visits
import ApiDoc.Proofs.Schema.Shape
import ApiDoc.Proofs.Schema.Referenced
import ApiDoc.Proofs.Schema.Rules
import ApiDoc.Proofs.Schema.Simple
import ApiDoc.Proofs.Registry
import ApiDoc.Proofs.Operation.Parameters
import ApiDoc.Proofs.Operation.Simple
import ApiDoc.Proofs.Operation.Duplicates
import ApiDoc.Proofs.Operation.Way
import ApiDoc.Proofs.Document.Way
import ApiDoc.Proofs.Document.ShortNames
import ApiDoc.Proofs.Operation.StatusKeys
import ApiDoc.Proofs.Operation.Responses
import ApiDoc.Proofs.Document.Failures
import ApiDoc.Proofs.Router.Ignored
import ApiDoc.Proofs.Document.Tags
import ApiDoc.Proofs.Document.Comparison
import ApiDoc.Proofs.Document.Order
import ApiDoc.Proofs.Document.Replaced
import ApiDoc.Proofs.Schema.Masked
import ApiDoc.Proofs.Operation.Masked
import ApiDoc.Proofs.Document.Roles
import ApiDoc.Proofs.Document.Masked
import ApiDoc.Proofs.Document.Identifiers
import ApiDoc.Proofs.Calls
import ApiDoc.Proofs.Files
import ApiDoc.Proofs.Json.Form
import ApiDoc.Proofs.CommandLine.Atomicity
import ApiDoc.Proofs.CommandLine.Formats
import ApiDoc.Proofs.Router.Malformed
import ApiDoc.Proofs.Json.RouteFiles
import ApiDoc.Proofs.Router.Joining
import ApiDoc.Proofs.Operation.PathParameters
import ApiDoc.Proofs.Document.Search
import ApiDoc.Proofs.Router.Collecting
import ApiDoc.Proofs.Router.Written
import ApiDoc.Proofs.Document.ListedTags
import ApiDoc.Proofs.Operation.Containers
import ApiDoc.Proofs.Router.Mounts
import ApiDoc.Proofs.CommandLine.Mounts
