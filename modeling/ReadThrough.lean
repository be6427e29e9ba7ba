import ReadThrough.Api.Server
import ReadThrough.Cluster
import ReadThrough.Config
import ReadThrough.Group.Traffic
import ReadThrough.Proofs.Api.Lookup
import ReadThrough.Proofs.Cluster.Hung
import ReadThrough.Proofs.Cluster.Lookup
import ReadThrough.Proofs.Cluster.Plan
import ReadThrough.Proofs.Cluster.Routing
import ReadThrough.Proofs.Cluster.Visit
import ReadThrough.Proofs.Config
import ReadThrough.Proofs.Flight.Separate
import ReadThrough.Proofs.Flight.SingleFlight
import ReadThrough.Proofs.Group.Budgets
import ReadThrough.Proofs.Group.Counts
import ReadThrough.Proofs.Group.Deadline
import ReadThrough.Proofs.Group.Failures
import ReadThrough.Proofs.Group.Loads
import ReadThrough.Proofs.Group.Lookup
import ReadThrough.Proofs.Group.Provenance
import ReadThrough.Proofs.Http.Path
import ReadThrough.Proofs.Http.Url
import ReadThrough.Proofs.Lru.Inclusion
import ReadThrough.Proofs.Lru.Refinement
import ReadThrough.Proofs.Lru.Safety
import ReadThrough.Proofs.Peer.Absorption
import ReadThrough.Proofs.Peer.Agreement
import ReadThrough.Proofs.Peer.Client
import ReadThrough.Proofs.Peer.Envelope
import ReadThrough.Proofs.Peer.Grammar
import ReadThrough.Proofs.Peer.Path
import ReadThrough.Proofs.Peer.Pool
import ReadThrough.Proofs.Peer.Request
import ReadThrough.Proofs.Peer.Selection
import ReadThrough.Proofs.Peer.Server
import ReadThrough.Proofs.Peer.Transparency
import ReadThrough.Proofs.Ring.History
import ReadThrough.Proofs.Ring.Ownership
import ReadThrough.Proofs.Ring.Shares
import ReadThrough.Proofs.Store.Disabled
import ReadThrough.Proofs.Store.Reentry
import ReadThrough.Proofs.Text.Ends
import ReadThrough.Store.Hook
