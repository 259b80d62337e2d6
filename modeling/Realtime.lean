import Realtime.Machine
import Realtime.Gateway
import Realtime.Isolation
import Realtime.Tickets
import Realtime.Drain
import Realtime.Client.Machine
import Realtime.Client.Tasks
import Realtime.Client.Delivery
import Realtime.Client.Lifecycle
import Realtime.Client.Exclusion
import Realtime.Client.Ledger
import Realtime.Client.Accounting
import Realtime.Client.Subscriptions
import Realtime.Client.Slots
import Realtime.Revalidation
import Realtime.Fallback.Transport
import Realtime.QueueAccounting
import Realtime.Diagnostics.Controller
import Realtime.Fallback.Manager
import Realtime.Diagnostics.Coordination
import Realtime.Diagnostics.Moves
import Realtime.Diagnostics.Reservations
import Realtime.Diagnostics.Overrides
import Realtime.Diagnostics.Provenance
import Realtime.Diagnostics.Reconciliation
import Realtime.Bootstrap.Locks
import Realtime.Bootstrap.Layout
import Realtime.Bootstrap.Journal
import Realtime.Bootstrap.Recovery
import Realtime.Closing
import Realtime.Correlations
import Realtime.Routes
import Realtime.SlowConsumers
import Realtime.Diagnostics.Stream
import Realtime.Sdk.Json
import Realtime.Sdk.Protocol
import Realtime.Paging
import Realtime.Persistence.Records
import Realtime.Persistence.Inbox
import Realtime.Persistence.Tasks
import Realtime.Sdk.Client.State
import Realtime.Sdk.Client.Machine
import Realtime.Sdk.Client.Flush
import Realtime.Sdk.Client.Sockets
import Realtime.Sdk.Client.Superseded
import Realtime.Diagnostics.Auditing
import Realtime.Diagnostics.Repeats
import Realtime.Backoff
import Realtime.ReconnectDelays
import Realtime.Client.Attempts
import Realtime.Client.Limits
import Realtime.Client.Rollback
import Realtime.Client.Traffic
import Realtime.Client.Acknowledgements
import Realtime.Diagnostics.Convergence
import Realtime.Bootstrap.Cidr
import Realtime.Bootstrap.Contract
import Realtime.Fallback.Interrupts
import Realtime.Bootstrap.Containment
import Realtime.RedisKeys
import Realtime.Assets.Css
import Realtime.Assets.Html
import Realtime.Client.Heartbeats
import Realtime.Client.State
import Realtime.Client.Tables
import Realtime.Connection
import Realtime.Contracts
import Realtime.Diagnostics.Levels
import Realtime.Diagnostics.Store
import Realtime.Diagnostics.Threads
import Realtime.Dispatcher
import Realtime.Framing
import Realtime.Pipeline
import Realtime.Replies
import Realtime.Routing
import Realtime.Sdk.Client.Seats
import Realtime.Sdk.JsMap
import Realtime.Sdk.JsText
import Realtime.Text
import Realtime.Utf8
import Realtime.Validation
