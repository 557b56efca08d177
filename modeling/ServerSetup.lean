import ServerSetup.Diagnostic
import ServerSetup.Main
import ServerSetup.Rehearsal
import ServerSetup.Filter.AdminScript
import ServerSetup.Windows
import ServerSetup.Proofs.Profile.Reformatting
import ServerSetup.Proofs.ServiceScan
import ServerSetup.Proofs.Search
import ServerSetup.Proofs.ServiceManager.Exclusion
import ServerSetup.Proofs.ServiceManager.History
import ServerSetup.Proofs.Catalog.Operations
import ServerSetup.Proofs.Filter.RoundTrip
import ServerSetup.Proofs.Filter.Commits
import ServerSetup.Proofs.ServiceManager.Arrival
import ServerSetup.Proofs.ServiceManager.Cancellation
import ServerSetup.Proofs.Rollback.Calls
import ServerSetup.Proofs.Rollback.FailedSave
import ServerSetup.Proofs.Session.Refresh
import ServerSetup.Proofs.Session.Upkeep
import ServerSetup.Proofs.Search.RecordedHome
import ServerSetup.Proofs.ServiceManager.Confinement
import ServerSetup.Proofs.Profile.OneArgument
import ServerSetup.Proofs.Windows.EventSource
import ServerSetup.Proofs.ServiceManager.Password
import ServerSetup.Proofs.ServiceManager.Neighbours
import ServerSetup.Proofs.CommandLine.Roles
import ServerSetup.Proofs.Search.Again
import ServerSetup.Proofs.Windows.Registration
import ServerSetup.Proofs.Filter.Again
import ServerSetup.Proofs.CommandLine.Quoting
import ServerSetup.Proofs.ServiceManager.Updates
import ServerSetup.Proofs.Filter.Binary
import ServerSetup.Proofs.Console.Record
import ServerSetup.Proofs.Path.Spelling
import ServerSetup.Proofs.Path.Canonical
import ServerSetup.Proofs.Filter.Enumeration
import ServerSetup.Proofs.Path.Ancestors
import ServerSetup.Proofs.ServiceManager.Deadline
import ServerSetup.Proofs.Settings.Overrides
