import QueryGate.Document.Item
import QueryGate.Json.Reader
import QueryGate.Error
import QueryGate.Notice
import QueryGate.Catalog.Column
import QueryGate.Catalog.Function
import QueryGate.Catalog.Index
import QueryGate.Catalog.Model
import QueryGate.Unicode.CaseFold
import QueryGate.Unicode.Category
import QueryGate.Unicode.Property
import QueryGate.Unicode.Script
import QueryGate.Pattern.CharSet
import QueryGate.Pattern.Expression
import QueryGate.Pattern.Bracket
import QueryGate.Pattern.Reader
import QueryGate.Access.Role
import QueryGate.Access.RoleTable
import QueryGate.Blocklist
import QueryGate.Catalog.Digest
import QueryGate.Catalog.Fingerprint
import QueryGate.Toml.Reader
import QueryGate.AllowList
import QueryGate.Settings
import QueryGate.Catalog.Client
import QueryGate.Engine.Compile
import QueryGate.Reload.Background
import QueryGate.Storage.Configuration
import QueryGate.Tool.Report
import QueryGate.Tool.Failure
import QueryGate.Tool.LogFilter
import QueryGate.Tool.Arguments
import QueryGate.Tool.Release
import QueryGate.Tool.Run
import QueryGate.Main
import QueryGate.Unicode.Age
import QueryGate.Unicode.Break
import QueryGate.Proofs.Engine.AtMostOnce
import QueryGate.Proofs.Engine.Verdict
import QueryGate.Proofs.Engine.Agreement
import QueryGate.Proofs.Engine.Indistinguishable
import QueryGate.Proofs.Engine.Servable
import QueryGate.Proofs.Engine.Formatting
import QueryGate.Proofs.Reload.Runs
import QueryGate.Proofs.Reload.Unmixed
import QueryGate.Proofs.Reload.Skipping
import QueryGate.Proofs.Reload.Lookout
import QueryGate.Proofs.Reload.InternalTables
import QueryGate.Proofs.Reload.Convergence
import QueryGate.Proofs.Reload.Steadfast
import QueryGate.Proofs.Reload.Polling
import QueryGate.Proofs.Catalog.SameStructure
import QueryGate.Proofs.Catalog.Merging
import QueryGate.Proofs.Catalog.Lookups
import QueryGate.Proofs.Catalog.RowOrder
import QueryGate.Proofs.Catalog.ForeignKeyOrder
import QueryGate.Proofs.Catalog.Blocking
import QueryGate.Proofs.Catalog.Representation
import QueryGate.Proofs.Document.RoundTrip
import QueryGate.Proofs.Catalog.Discovery
import QueryGate.Proofs.Tool.Rehearsal
import QueryGate.Proofs.Access.Permissions
import QueryGate.Proofs.Reload.Watching
import QueryGate.Proofs.Pattern.WholeNames
import QueryGate.Proofs.Catalog.ColumnMerging
import QueryGate.Proofs.Catalog.DerivedPositions
import QueryGate.Proofs.Engine.Effects
import QueryGate.Proofs.Catalog.IndexGrouping
import QueryGate.Proofs.Catalog.FunctionGrouping
import QueryGate.Proofs.Document.Extracted
import QueryGate.Proofs.Document.SelectionSets
import QueryGate.Proofs.Document.KeywordNames
import QueryGate.Proofs.Document.Directives
import QueryGate.Proofs.Document.ScannerCorrect
import QueryGate.Proofs.Engine.Validating
import QueryGate.Proofs.Catalog.ParamNames
import QueryGate.Proofs.Tool.Numerals
import QueryGate.Proofs.Tool.Startup
import QueryGate.Proofs.Storage.FileNames
import QueryGate.Proofs.Storage.Listing
import QueryGate.Proofs.Document.NormalForms
