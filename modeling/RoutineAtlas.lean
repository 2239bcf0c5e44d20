import RoutineAtlas.Analysis.Check
import RoutineAtlas.Workspace.Scan
import RoutineAtlas.Query.Completion
import RoutineAtlas.Query.Diagnostic
import RoutineAtlas.Query.Hover
import RoutineAtlas.Query.Location
import RoutineAtlas.Query.SemanticToken
import RoutineAtlas.Query.Symbol
import RoutineAtlas.Report
import RoutineAtlas.CommandLine
import RoutineAtlas.Server
import RoutineAtlas.Main
import RoutineAtlas.Proofs.Batch
import RoutineAtlas.Proofs.Bystanders
import RoutineAtlas.Proofs.Changes
import RoutineAtlas.Proofs.Extent
import RoutineAtlas.Proofs.Freshness
import RoutineAtlas.Proofs.History
import RoutineAtlas.Proofs.Layout
import RoutineAtlas.Proofs.LetterCase.Analysis
import RoutineAtlas.Proofs.Mirror
import RoutineAtlas.Proofs.Navigation
import RoutineAtlas.Proofs.Nesting
import RoutineAtlas.Proofs.OpenDocuments
import RoutineAtlas.Proofs.PathOrder
import RoutineAtlas.Proofs.Publication
import RoutineAtlas.Proofs.Reindexing
import RoutineAtlas.Proofs.Scoping
import RoutineAtlas.Proofs.Seniority
import RoutineAtlas.Proofs.Submission
import RoutineAtlas.Proofs.Accounting
import RoutineAtlas.Proofs.Namesakes
import RoutineAtlas.Proofs.Occurrences
import RoutineAtlas.Proofs.Endings
import RoutineAtlas.Proofs.Joining
import RoutineAtlas.Proofs.Repetition
import RoutineAtlas.Proofs.Reprinting
import RoutineAtlas.Proofs.Renaming
import RoutineAtlas.Proofs.Linking
import RoutineAtlas.Proofs.DocLines
import RoutineAtlas.Proofs.Described
import RoutineAtlas.Proofs.Ranges
import RoutineAtlas.Proofs.Encoding
import RoutineAtlas.Proofs.Editing
import RoutineAtlas.Proofs.Offers
import RoutineAtlas.Proofs.Remarks
import RoutineAtlas.Proofs.Events
import RoutineAtlas.Proofs.Literals
import RoutineAtlas.Proofs.Unfiled
import RoutineAtlas.Proofs.Closing
import RoutineAtlas.Proofs.Enclosing
