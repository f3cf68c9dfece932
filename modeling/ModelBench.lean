import ModelBench.Text.Blank
import ModelBench.Text.WordChar
import ModelBench.Text.CaseFold
import ModelBench.Text.Lowercase
import ModelBench.Text.Printable
import ModelBench.Text.Utf8
import ModelBench.Text.Quoted
import ModelBench.Decimal.Shortest
import ModelBench.Json.Printer
import ModelBench.Json.Token
import ModelBench.Json.Shape
import ModelBench.Files.Volume
import ModelBench.Report.Json
import ModelBench.Mock.Encoding
import ModelBench.Sql.Substitution
import ModelBench.Sql.Scan
import ModelBench.Query.Executor
import ModelBench.Manifest.Json
import ModelBench.Manifest.Graph
import ModelBench.Preflight
import ModelBench.Run
import ModelBench.Report.Markdown
import ModelBench.Config
import ModelBench.Batch
import ModelBench.Cli.Style
import ModelBench.Cli.Arguments
import ModelBench.Cli.Program
import ModelBench.Main
import ModelBench.Proofs.Resolution.Success
import ModelBench.Proofs.Resolution.Names
import ModelBench.Proofs.Resolution.Circle
import ModelBench.Proofs.Sql.OnePass
import ModelBench.Proofs.Sql.Commute
import ModelBench.Proofs.Sql.ExplicitAlias
import ModelBench.Proofs.Verdict
import ModelBench.Proofs.Resolution.Locality
import ModelBench.Proofs.Manifest.Graph
import ModelBench.Proofs.Manifest.Reach
import ModelBench.Proofs.Preflight
import ModelBench.Proofs.PassThrough
import ModelBench.Proofs.Resolution.Graph
import ModelBench.Proofs.Files.Folder
import ModelBench.Proofs.Run
import ModelBench.Proofs.Batch
import ModelBench.Proofs.Json.Layout
import ModelBench.Proofs.Json.Shape
import ModelBench.Proofs.Report.Json
import ModelBench.Proofs.Assertion
import ModelBench.Proofs.Query.Offset
import ModelBench.Proofs.Query.Expression
import ModelBench.Proofs.Mock.Reordering
import ModelBench.Proofs.Conversation
import ModelBench.Proofs.Filter
import ModelBench.Proofs.Sql.Opaque
import ModelBench.Proofs.Loading
import ModelBench.Proofs.Query.Executor
