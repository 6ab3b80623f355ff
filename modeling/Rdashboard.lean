import Rdashboard.Properties.OperationStates
import Rdashboard.Properties.Seal
import Rdashboard.Properties.FenceLifecycle
import Rdashboard.Properties.DiskLedger
import Rdashboard.Properties.Maintenance
import Rdashboard.Properties.SourceTrust
import Rdashboard.Properties.SourceTickets
import Rdashboard.Properties.Grants
import Rdashboard.Properties.Controls
import Rdashboard.Metrics.Counters
import Rdashboard.Properties.Outbox
import Rdashboard.Properties.Restart
import Rdashboard.Properties.NativePolicies
import Rdashboard.Properties.NativeRejection
import Rdashboard.Properties.Delivery
import Rdashboard.Properties.Backlog
