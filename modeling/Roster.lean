import Roster.Config.Load
import Roster.Endpoint
import Roster.Error.Codec
import Roster.Instance.Codec
import Roster.LogFilter
import Roster.Switchboard
import Roster.Proofs.Ring
import Roster.Proofs.Connections
import Roster.Proofs.Difference
import Roster.Proofs.Registry.History
import Roster.Proofs.Registry.Stream
import Roster.Proofs.Resolver
import Roster.Proofs.Convergence
import Roster.Proofs.Routing
import Roster.Proofs.Registry.Reload
import Roster.Proofs.Registry.Polling
import Roster.Proofs.Registry.Pollers
import Roster.Proofs.Registry.Delivery
import Roster.Proofs.Registry.Isolation
import Roster.Proofs.Registry.Moments
import Roster.Proofs.Registry.Queries
import Roster.Proofs.Resolver.Pushes
import Roster.Proofs.Registry.Adoption
import Roster.Proofs.Registry.Tasks
import Roster.Proofs.Registry.Listed
import Roster.Proofs.Registry.LastStop
import Roster.Proofs.Registry.Rolls
import Roster.Proofs.Registry.Accounts
import Roster.Proofs.Registry.Contract
import Roster.Proofs.Resolver.Closing
import Roster.Proofs.Registry.Overtaking
import Roster.Proofs.Registry.Watching
import Roster.Proofs.Difference.Exact
import Roster.Proofs.Breakdown
import Roster.Proofs.Target
import Roster.Proofs.Connections.Upkeep
import Roster.Proofs.Registry.Clock
import Roster.Proofs.Registry.Pacing
import Roster.Proofs.Registry.Wanted
import Roster.Proofs.Registry.Reclaim
import Roster.Proofs.Registry.Reordering
import Roster.Proofs.Dialing
import Roster.Proofs.Consul.Request
import Roster.Proofs.Config
import Roster.Proofs.Registry.Addresses
