import ZoneSync.Folder
import ZoneSync.Main
import ZoneSync.Proofs.Record.Distinct
import ZoneSync.Proofs.Reconciliation
import ZoneSync.Proofs.Text.Lines
import ZoneSync.Proofs.Text.Token
import ZoneSync.Proofs.Layout.Line
import ZoneSync.Proofs.Layout.Blocks
import ZoneSync.Proofs.Layout.Meaning
import ZoneSync.Proofs.Layout.RoundTrip
import ZoneSync.Proofs.Provider.Conversion
import ZoneSync.Proofs.Sync.Convergence
import ZoneSync.Proofs.Layout.Acceptance
import ZoneSync.Proofs.Sync.Retries
import ZoneSync.Proofs.Provider.Lifetime
import ZoneSync.Proofs.Command.Phases
import ZoneSync.Proofs.Command.Print
import ZoneSync.Proofs.Interleaving
import ZoneSync.Proofs.Sync.Progress
import ZoneSync.Proofs.Sync.Concurrency
import ZoneSync.Proofs.Sync.Routine
import ZoneSync.Proofs.Command.Closing
import ZoneSync.Proofs.Sync.Confidential
import ZoneSync.Proofs.Layout.Fetched
import ZoneSync.Proofs.Provider.Usable
import ZoneSync.Proofs.Provider.Encodings
import ZoneSync.Proofs.Sync.Complete
import ZoneSync.Proofs.Layout.Directives
import ZoneSync.Proofs.Command.Loading
import ZoneSync.Proofs.Sync.Gathered
import ZoneSync.Proofs.Layout.Edits
import ZoneSync.Proofs.Layout.Filters
import ZoneSync.Proofs.Command.Sorted
import ZoneSync.Proofs.Command.AllOrNothing
import ZoneSync.Proofs.Command.Reporting
import ZoneSync.Proofs.Record.Canonical
import ZoneSync.Proofs.Layout.Assignments
import ZoneSync.Proofs.Command.Precedence
