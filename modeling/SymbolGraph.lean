import SymbolGraph.Main
import SymbolGraph.Store.Transaction
import SymbolGraph.Proofs.Store.Table
import SymbolGraph.Proofs.Store.Change
import SymbolGraph.Proofs.Store.Growth
import SymbolGraph.Proofs.Store.WellFormed
import SymbolGraph.Proofs.Extraction.Nesting
import SymbolGraph.Proofs.Identity
import SymbolGraph.Proofs.Impact.Distance
import SymbolGraph.Proofs.Impact.Report
import SymbolGraph.Proofs.Ingest.Nesting
import SymbolGraph.Proofs.Pipeline.Forest
import SymbolGraph.Proofs.Pipeline.Persistence
import SymbolGraph.Proofs.Pipeline.Soundness
import SymbolGraph.Proofs.Pipeline.Integrity
import SymbolGraph.Proofs.Pipeline.CallResolution
import SymbolGraph.Proofs.Ingest.Scope
import SymbolGraph.Proofs.Pipeline.Run
import SymbolGraph.Proofs.Ingest.Repetition
import SymbolGraph.Proofs.Pipeline.Idempotence
import SymbolGraph.Proofs.Store.Renaming
import SymbolGraph.Proofs.Ingest.Locality
import SymbolGraph.Proofs.Ingest.Exchange
import SymbolGraph.Proofs.Resolution.Renaming
import SymbolGraph.Proofs.Pipeline.Reordering
import SymbolGraph.Proofs.Path.Suffix
import SymbolGraph.Proofs.Path.Canonical
import SymbolGraph.Proofs.Path.Walk
import SymbolGraph.Proofs.Resolution.Choice
import SymbolGraph.Proofs.Pipeline.ImportResolution
import SymbolGraph.Proofs.Pipeline.CallTargets
import SymbolGraph.Proofs.Ingest.Contents
import SymbolGraph.Proofs.Ingest.Correspondence
import SymbolGraph.Proofs.Pipeline.Faithfulness
import SymbolGraph.Proofs.Pipeline.Bindings
import SymbolGraph.Proofs.Pipeline.Atomicity
import SymbolGraph.Proofs.Pipeline.Isolation
import SymbolGraph.Proofs.Pipeline.Uncalled
import SymbolGraph.Proofs.Pipeline.Provenance
import SymbolGraph.Proofs.Python.ModuleName
import SymbolGraph.Proofs.Python.Package
import SymbolGraph.Proofs.Pipeline.QualifiedCall
import SymbolGraph.Proofs.Extraction.WellFormed
import SymbolGraph.Proofs.Impact.Graph
import SymbolGraph.Proofs.Extraction.Occurrence
import SymbolGraph.Proofs.Extraction.Record
import SymbolGraph.Proofs.Python.Syntax
import SymbolGraph.Proofs.Python.Parser.Expression
import SymbolGraph.Proofs.Python.Parser.Statement
import SymbolGraph.Proofs.Python.Record
import SymbolGraph.Proofs.JavaScript.Record
import SymbolGraph.Proofs.JavaScript.Specifier
import SymbolGraph.Proofs.Scope.Around
import SymbolGraph.Proofs.Scope.Names
import SymbolGraph.Proofs.Scope.Calls
import SymbolGraph.Proofs.Identity.Offers
import SymbolGraph.Proofs.Scope.Dotted
import SymbolGraph.Proofs.Impact.Saturation
import SymbolGraph.Proofs.Impact.Budget
import SymbolGraph.Proofs.Impact.Dot
import SymbolGraph.Proofs.Path.Directory
import SymbolGraph.Proofs.Path.Normal
import SymbolGraph.Proofs.Path.Matching
import SymbolGraph.Proofs.Text.Bytes
import SymbolGraph.Proofs.Text.Lossy
import SymbolGraph.Proofs.Text.Words
import SymbolGraph.Proofs.Extraction.Span
import SymbolGraph.Proofs.Extraction.SourceSpan
import SymbolGraph.Proofs.Text.Window
import SymbolGraph.Proofs.Text.Decimal
import SymbolGraph.Proofs.Store.Archive
