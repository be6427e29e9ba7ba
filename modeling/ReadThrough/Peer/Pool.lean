import ReadThrough.Peer.Client
import ReadThrough.Ring.Basic
import ReadThrough.Text.Duration

/-!
# Pools of peers

A pool is the list of nodes one node knows of, itself included, with the ring that says which of
them a key belongs to. Addresses are compared without trailing slashes. Setting the list replaces
the ring and the table of clients together, so that nothing of an earlier list is left.

## Main definitions

* `Pool.Options`: base path, points for each node, hash and deadline of a request
* `Pool.create`: a pool without peers
* `Pool.set p peers`, `Pool.peers p`: the peers, given and listed
* `Pool.pick? p key`: the peer to ask for a key
-/

namespace ReadThrough

namespace Pool

/-- What a pool may be told besides its own address. -/
structure Options where
  /-- The base path of the peer protocol, with a slash at both ends. -/
  basePath : String := PeerPath.defaultBase
  /-- Number of points for each peer on the ring. -/
  replicas : Nat := Ring.defaultReplicas
  /-- The hash of the ring, if not CRC-32. -/
  hash : Option Hash := none
  /-- The milliseconds after which a peer request is given up. -/
  peerTimeout : Nat := 5000

/-- Options in words. -/
def Options.describe (o : Options) : String :=
  Text.record "PoolOptions" [("base_path", Text.quote o.basePath),
    ("replicas", toString o.replicas), ("custom_hash", toString o.hash.isSome),
    ("peer_timeout", Text.Duration.describe o.peerTimeout)]

/-- The ring without peers that a pool with these options starts from. -/
def Options.ring (o : Options) : Ring := .empty o.replicas (o.hash.getD Hash.crc32)

end Pool

/-- The peers a node knows of. -/
structure Pool where
  /-- The node's own address, without trailing slashes. -/
  self : String
  /-- What the pool was told. -/
  options : Pool.Options
  /-- Which peer a key belongs to. -/
  ring : Ring
  /-- The client of every peer. -/
  clients : Std.HashMap String Client

namespace Pool

/-- The text begins and ends with a slash. -/
def isBasePath (path : String) : Bool :=
  path.toList.head? == some '/' && path.toList.getLast? == some '/'

/-- A pool without peers for the node at an address. -/
def create (self : String) (options : Options) : Except Fault Pool :=
  if isBasePath options.basePath then
    .ok ⟨normalizeAddress self, options, options.ring, ∅⟩
  else .error (.config ("base path must start and end with '/': " ++ options.basePath))

/-- Replaces the peers by those at the given addresses. -/
def set (p : Pool) (addrs : List String) : Pool :=
  let addrs := addrs.map normalizeAddress
  { p with
    ring := p.options.ring.add addrs
    clients := .ofList (addrs.map fun addr => (addr, Client.create addr p.options.basePath)) }

/-- The addresses of the peers, ascending, each once. -/
def peers (p : Pool) : List String := Text.sortedDistinct p.clients.keys

/-- The peer to ask for a key: none if the key is the node's own, or if it knows of no peers. -/
def pick? (p : Pool) (key : String) : Option Client :=
  (p.ring.owner? key).bind fun addr => if addr = p.self then none else p.clients[addr]?

end Pool

end ReadThrough
