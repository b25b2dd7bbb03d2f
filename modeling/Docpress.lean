import Docpress.FileSystem.Tree
import Docpress.Main
import Docpress.Proofs.Attributes
import Docpress.Proofs.Node.Depth
import Docpress.Proofs.Rendering.Visible
import Docpress.Proofs.Rendering.FirstFault
import Docpress.Proofs.Rendering.Texts
import Docpress.Proofs.Batch.OrderIndependence
import Docpress.Proofs.Slug.LeastFree
import Docpress.Proofs.Headings.Elements
import Docpress.Proofs.Node.Parsed
import Docpress.Proofs.Headings.Anchors
import Docpress.Proofs.Html.Tokenizer
import Docpress.Proofs.Html.RoundTrip
import Docpress.Proofs.Node.Limit
import Docpress.Proofs.Markup.Trusted
import Docpress.Proofs.Highlighting.TrustBoundary
import Docpress.Proofs.Batch.Collisions
import Docpress.Proofs.Batch.Reports
import Docpress.Proofs.Headings.AnchoredTree
import Docpress.Proofs.Rendering.Overrides
import Docpress.Proofs.Rendering.Links
import Docpress.Proofs.Rendering.Parts
import Docpress.Proofs.Node.CodeBlocks
import Docpress.Proofs.Tables.Grid
import Docpress.Proofs.Rendering.Adornments
import Docpress.Proofs.Batch.Sources
import Docpress.Proofs.Program.Init
import Docpress.Proofs.Batch.Failures
import Docpress.Proofs.Program.Footprint
import Docpress.Proofs.Link.AuthorAttributes
import Docpress.Proofs.Slug.OnePass
import Docpress.Proofs.Program.Printing
import Docpress.Proofs.Json.Grammar
import Docpress.Proofs.Json.Reading
import Docpress.Proofs.Json.Compact
import Docpress.Proofs.Markup.JsonForm
import Docpress.Proofs.Text.WhiteSpace
import Docpress.Proofs.Text.Lowercase
import Docpress.Proofs.Slug.Blanks
import Docpress.Proofs.Slug.NormalForms
import Docpress.Proofs.Node.Calls
import Docpress.Proofs.Node.MalformedTables
import Docpress.Proofs.Node.Termination
import Docpress.Proofs.Attributes.History
import Docpress.Proofs.Json.Indented
import Docpress.Proofs.Json.Numbers
import Docpress.Proofs.Json.Records
import Docpress.Proofs.Config.Given
import Docpress.Proofs.Config.JsonText
import Docpress.Proofs.Config.Precedence
import Docpress.Proofs.Json.Nesting
import Docpress.Proofs.Tables.JsonText
import Docpress.Proofs.Node.PlainText
import Docpress.Proofs.Highlighting.Aliases
import Docpress.Proofs.Highlighting.Themes
import Docpress.Proofs.Rendering.TypeNames
import Docpress.Proofs.Slug.SuffixSearch
import Docpress.Proofs.Node.Places
import Docpress.Proofs.Node.StackWalks
import Docpress.Proofs.CommandLine.LongOptions
import Docpress.Proofs.CommandLine.Writing
import Docpress.Proofs.CommandLine.ReadBack
