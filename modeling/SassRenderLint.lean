import SassRenderLint.Config.Error
import SassRenderLint.Config.Files
import SassRenderLint.Config.Modules
import SassRenderLint.Config.Resolver
import SassRenderLint.Config.Source
import SassRenderLint.Diagnostic.Basic
import SassRenderLint.Diagnostic.Merge
import SassRenderLint.Diagnostic.Wire
import SassRenderLint.Files.Tree
import SassRenderLint.Json.Basic
import SassRenderLint.Json.Decode
import SassRenderLint.Json.Reader
import SassRenderLint.Json.Shown
import SassRenderLint.Json.Writer
import SassRenderLint.Memo.Basic
import SassRenderLint.Number.Binary64
import SassRenderLint.Number.Shortest
import SassRenderLint.Path.Basic
import SassRenderLint.Path.Quoted
import SassRenderLint.Render.Batch
import SassRenderLint.Render.Cache
import SassRenderLint.Render.CompilerOptions
import SassRenderLint.Render.Toolchain
import SassRenderLint.Report.Listing
import SassRenderLint.Report.Snippet
import SassRenderLint.Report.Summary
import SassRenderLint.Report.Text
import SassRenderLint.Report.Warning
import SassRenderLint.Routine.Basic
import SassRenderLint.Routine.Join
import SassRenderLint.Rule.Check
import SassRenderLint.Rule.Host
import SassRenderLint.Rule.Options
import SassRenderLint.Rule.Schema
import SassRenderLint.Rule.Target
import SassRenderLint.Script.Modules
import SassRenderLint.Script.Renderers
import SassRenderLint.Script.Stage
import SassRenderLint.Sheet.Distance
import SassRenderLint.Sheet.Nearest
import SassRenderLint.Sheet.Node
import SassRenderLint.Sheet.Wire
import SassRenderLint.Text.Alphanumeric
import SassRenderLint.Text.CharSet
import SassRenderLint.Text.LineBreak.Class
import SassRenderLint.Text.LineBreak.Rules
import SassRenderLint.Text.Offset
import SassRenderLint.Text.Position
import SassRenderLint.Text.Printable
import SassRenderLint.Text.Quoted
import SassRenderLint.Text.Scan
import SassRenderLint.Text.Utf8
import SassRenderLint.Text.Width
import SassRenderLint.Text.Wrap
import SassRenderLint.Toml.Document
import SassRenderLint.Toml.Lexis
import SassRenderLint.Toml.Moment
import SassRenderLint.Toml.Table
import SassRenderLint.Toml.Value
import SassRenderLint.Proofs.JsonText
import SassRenderLint.Proofs.Rounds
import SassRenderLint.Proofs.DistinctFindings
import SassRenderLint.Proofs.NearestNode
import SassRenderLint.Proofs.Reporting
import SassRenderLint.Proofs.Reprojection
import SassRenderLint.Proofs.Offsets
import SassRenderLint.Proofs.WordPositions
import SassRenderLint.Proofs.LookupMachine
import SassRenderLint.Proofs.MemoInterleaving
import SassRenderLint.Proofs.MemoClearing
import SassRenderLint.Proofs.FragmentShift
import SassRenderLint.Proofs.ReportedLines
import SassRenderLint.Proofs.Shadows
import SassRenderLint.Proofs.FailureAccounts
import SassRenderLint.Proofs.Watching
import SassRenderLint.Proofs.FailurePaths
import SassRenderLint.Proofs.Assurance
import SassRenderLint.Proofs.ModeAgreement
import SassRenderLint.Proofs.RendererReuse
import SassRenderLint.Proofs.UnseenCaches
import SassRenderLint.Proofs.RendererTiming
import SassRenderLint.Proofs.GrowingStates
import SassRenderLint.Proofs.StickyOptions
import SassRenderLint.Proofs.FieldOrder
import SassRenderLint.Proofs.WireRoundTrip
import SassRenderLint.Proofs.SchemaAgreement
import SassRenderLint.Proofs.DistanceOrder
import SassRenderLint.Proofs.ClosestNode
import SassRenderLint.Proofs.OffsetInverse
import SassRenderLint.Proofs.LineBounds
import SassRenderLint.Proofs.GuardedText
import SassRenderLint.Proofs.WindowBounds
import SassRenderLint.Proofs.NoFaults
import SassRenderLint.Proofs.FieldMaps
import SassRenderLint.Proofs.OptionsRoundTrip
import SassRenderLint.Proofs.AddressingMode
import SassRenderLint.Proofs.BatchMerging
import SassRenderLint.Proofs.ExactHits
import SassRenderLint.Proofs.PathParts
import SassRenderLint.Proofs.ModuleLookup
import SassRenderLint.Proofs.ModuleFormats
import SassRenderLint.Proofs.StyleFiles
import SassRenderLint.Proofs.ReportParts
import SassRenderLint.Proofs.IndentedText
import SassRenderLint.Proofs.ListingReadBack
import SassRenderLint.Proofs.WalkOrder
