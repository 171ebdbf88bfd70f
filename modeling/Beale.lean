import Beale.Control.Pause
import Beale.Control.Approvals
import Beale.Goal.Completion
import Beale.Goal.Persistence
import Beale.WorkerDatabase.Lease
import Beale.Fleet.CrashedSubmit
import Beale.Findings.Duplicates
import Beale.Findings.Components
import Beale.Findings.Independence
import Beale.Executor.Retries
import Beale.Subagents.Mailboxes
import Beale.Sessions.Activity
import Beale.Sessions.EventLog
import Beale.Storage.Registration
import Beale.Surfaces.Readable
import Beale.Migrations.Prefix
import Beale.Publication.Pins
import Beale.Topics.Reopening
import Beale.Publication.CacheMarker
import Beale.Fleet.OwnedVms
import Beale.Shell.Holders
import Beale.AppServer.Delivery
import Beale.Desktop.Flushes
import Beale.Mcp.Correlation
import Beale.AppServer.Controls
import Beale.AppServer.Activity
import Beale.Discovery.Exclusion
import Beale.Auth.SerialOrder
import Beale.Shell.RemoteCommand
import Beale.Runbooks.LatestSuccess
import Beale.Resources.Exclusions
import Beale.Sources.Checkouts
import Beale.Tools.Paging
import Beale.Runbooks.CellText
import Beale.Runbooks.Settling
import Beale.Files.Interleaving
import Beale.Registry.ProviderRuns
import Beale.Memory.Search
import Beale.Focus.RecallBound
import Beale.Control.Framing
import Beale.Goal.Retention
import Beale.AppServer.Automation
import Beale.Track.Attempts
import Beale.Executor.Checkpoints
import Beale.Track.Scheduling
