import Jrok.Db.Health
import Jrok.Db.RoundTrip
import Jrok.Cluster.Lease
import Jrok.Cluster.Terms
import Jrok.Cluster.Deposed
import Jrok.Agent.Agreement
import Jrok.Agent.Heartbeats
import Jrok.Agent.Ownership
import Jrok.Agent.Delivery
import Jrok.Agent.Authentication
import Jrok.Agent.Closing
import Jrok.Http.Response
import Jrok.Http.Router
import Jrok.Tcp.Requests
import Jrok.Tcp.Sessions
import Jrok.Tunnel.Proxy
import Jrok.Tunnel.Redirects
import Jrok.Cluster.Shutdown
import Jrok.Tcp.Drivers
import Jrok.Tunnel.Isolation
import Jrok.Codec.BigEndian
import Jrok.Concurrency.Calls
import Jrok.Concurrency.Cancel
import Jrok.Http.Routes
import Jrok.Refinement.Machine
import Jrok.Relay.Drift
import Jrok.Stun.Attributes
import Jrok.Stun.Endpoints
import Jrok.Tcp.Calls
import Jrok.Tcp.Relays
import Jrok.Tcp.Statistics
import Jrok.Tunnel.Dropped
import Jrok.Agent.Retries
import Jrok.Cluster.Uncontested
import Jrok.Stun.Discovery
import Jrok.Stun.Trailing
import Jrok.Tcp.Failures
import Jrok.Db.Ports
import Jrok.Relational.Ledger
import Jrok.Relay.Accounting
import Jrok.Relay.Counters
import Jrok.Tcp.Independence
import Jrok.Tunnel.Forwarding
import Jrok.Net.Text
import Jrok.Stun.Detection
import Jrok.Stun.Servers
import Jrok.Cluster.Timeouts
import Jrok.Concurrency.Pipe
import Jrok.Agent.Replies
import Jrok.Server.Streams
import Jrok.Nat.HolePuncher
import Jrok.Relay.HolePunching
import Jrok.Concurrency.Allocation
import Jrok.Db.Allocation
import Jrok.Server.Unasked
import Jrok.Concurrency.History
import Jrok.Db.Serial
import Jrok.Db.ForeignKeys
import Jrok.Api.Keys
import Jrok.Api.Revocation
import Jrok.Db.Tunnels
import Jrok.Cluster.Eviction
import Jrok.Server.Admission
import Jrok.Tcp.Polls
import Jrok.Agent.Registrations
import Jrok.Server.Welcomes
import Jrok.Relay.Tasks
