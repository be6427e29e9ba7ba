import ReadThrough.Peer.Pool
import ReadThrough.Peer.Server

/-!
# Clusters

Nodes ask each other for keys. Each node has a pool of peers and serves its groups to them; beside
the nodes there may be hosts that answer every request alike, or never. Lookups are made one after
the other, but a lookup at one node may make others at other nodes before it ends.

A lookup that comes back to a node which is at work on the same key waits for its own end. Like a
request to a host that never answers, it is given up when the client's deadline is over.

## Main definitions

* `Node`, `Stub`, `Cluster`: nodes, other hosts, and what the network carries
* `Cluster.send`: what comes of a request
* `Cluster.get`: a lookup at a node
* `Cluster.fetch`: the answer of a peer to a client of its own
-/

namespace ReadThrough

/-- A node: its peers and its groups. -/
structure Node where
  /-- The peers it knows of. -/
  pool : Pool
  /-- The groups it serves. -/
  registry : Registry

/-- A host that answers every request alike. -/
structure Stub where
  /-- The host's address. -/
  addr : String
  /-- The status and the body of every answer; none if the host never answers. -/
  answer : Option (Nat × Bytes)

/-- A key that is looked up in a group of a node. -/
structure Errand where
  /-- The node's address, without trailing slashes. -/
  addr : String
  /-- The group's name. -/
  group : String
  /-- The key. -/
  key : String
  deriving DecidableEq, Repr

/-- Nodes, other hosts, and what the network carries. -/
structure Cluster where
  /-- The nodes. -/
  nodes : List Node
  /-- Other hosts. -/
  stubs : List Stub
  /-- Where requests go. -/
  route : Route
  /-- The network carries the request. -/
  carries : Dispatch → Bool
  /-- The lookups that are being made. -/
  underway : List Errand
  /-- The URLs of all requests carried so far, in order. -/
  wire : List String
  /-- The calls to loaders so far, with the node that made them, in order. -/
  calls : List (String × SourceCall)

namespace Cluster

/-- The node with an address. -/
def node? (c : Cluster) (addr : String) : Option Node := c.nodes.find? (·.pool.self == addr)

/-- The cluster with another state of the node at the same address. -/
def setNode (c : Cluster) (node : Node) : Cluster :=
  { c with nodes := c.nodes.map fun n => if n.pool.self = node.pool.self then node else n }

/-- The cluster with another state of a group of a node. -/
def setGroup (c : Cluster) (addr : String) (g : Group) : Cluster :=
  match c.node? addr with
  | some node => c.setNode { node with registry := node.registry.setGroup g }
  | none => c

/-- The group of a node, with its surroundings. -/
def member? (c : Cluster) (addr group : String) : Option Member :=
  (c.node? addr).bind fun node => node.registry.find? group

/-- The groups of a node as its server sees them, if lookups go as `get` says. -/
def directory (get : Cluster → Errand → Cluster × Option Outcome) (addr : String) :
    Directory Cluster where
  has c group := (c.member? addr group).isSome
  countRequest c group :=
    match c.member? addr group with
    | some m => c.setGroup addr (m.group.record .serverRequests)
    | none => c
  get c group key := get c ⟨addr, group, key⟩

/-! ## Requests -/

/-- What comes of a request, and whether the client had to wait until its deadline. -/
def send (get : Cluster → Errand → Cluster × Option Outcome) (c : Cluster) (d : Dispatch) :
    Cluster × Exchange × Bool :=
  if c.carries d then
    let c := { c with wire := c.wire ++ [d.url] }
    match c.nodes.find? fun node => d.isFor node.pool.self with
    | some node =>
      let dir := directory get node.pool.self
      match PeerServer.handle dir node.pool.options.basePath c ⟨"GET", ⟨d.path, d.query⟩⟩ with
      | (c, some ⟨status, _, .bytes body⟩) => (c, .answered status body, false)
      | (c, _) => (c, .lost, true)
    | none =>
      match c.stubs.find? fun stub => d.isFor (normalizeAddress stub.addr) with
      | some ⟨_, some (status, body)⟩ => (c, .answered status body, false)
      | some ⟨_, none⟩ => (c, .lost, true)
      | none => (c, .lost, false)
  else (c, .lost, false)

/-- What a client learns when it asks for a key, and whether it had to wait until its deadline. -/
def request (get : Cluster → Errand → Cluster × Option Outcome) (c : Cluster) (client : Client)
    (group key : String) : Cluster × Outcome × Bool :=
  match c.route client group key with
  | .error fault => (c, .error fault, false)
  | .ok d =>
    let (c, exchange, waited) := c.send get d
    (c, client.accept group key d exchange, waited)

/-! ## Lookups -/

/-- The reply of a source that a node asks during a lookup. -/
def ask (get : Cluster → Errand → Cluster × Option Outcome) (c : Cluster) (node : Node)
    (m : Member) (e : Errand) : Side → Cluster × Reply
  | .loader =>
    ({ c with calls := c.calls ++ [(e.addr, ⟨e.group, .loader, e.key⟩)] },
      m.around.ask .loader e.key)
  | .peer name =>
    let client := Client.create name node.pool.options.basePath
    match c.request get client e.group e.key with
    | (c, outcome, true) => (c, .later node.pool.options.peerTimeout outcome)
    | (c, outcome, false) => (c, .now outcome)

/-- The rest of a lookup, in which up to `n` sources are asked. -/
def finish (get : Cluster → Errand → Cluster × Option Outcome) (e : Errand) :
    Nat → Cluster → Stage → Cluster × Option Outcome
  | _, c, .answered outcome => (c, some outcome)
  | _, c, .stuck => (c, none)
  | 0, c, .asks _ _ => (c, none)
  | n + 1, c, .asks side elapsed =>
    match c.node? e.addr, c.member? e.addr e.group with
    | some node, some m =>
      let (c, reply) := c.ask get node m e side
      -- Meanwhile other lookups may have changed the group.
      match c.member? e.addr e.group with
      | some m =>
        let (g, stage) := m.group.resume e.key side elapsed reply
        finish get e n (c.setGroup e.addr g) stage
      | none => (c, none)
    | _, _ => (c, none)

/-- A lookup at a node, with up to `n` lookups at other nodes inside each other: the answer, unless
the lookup is stuck or there is no such group. -/
def getWithin : Nat → Cluster → Errand → Cluster × Option Outcome
  | 0, c, _ => (c, none)
  | n + 1, c, e =>
    match c.node? e.addr, c.member? e.addr e.group with
    | some node, some m =>
      match m.group.look e.key with
      | (g, some outcome) => (c.setGroup e.addr g, some outcome)
      | (g, none) =>
        -- The lookup has come back to where it began, and would wait for itself.
        if e ∈ c.underway then (c.setGroup e.addr g, none)
        else
          let (g, stage) := g.lead ((node.pool.pick? e.key).map (·.baseUrl)) e.key
          let c := { c.setGroup e.addr g with underway := e :: c.underway }
          let (c, outcome) := finish (getWithin n) e 2 c stage
          ({ c with underway := c.underway.erase e }, outcome)
    | _, _ => (c, none)

/-- A lookup at a node. Lookups inside each other are at different nodes, but for the last. -/
def get (c : Cluster) (e : Errand) : Cluster × Option Outcome := c.getWithin (c.nodes.length + 1) e

/-- What a client of its own learns when it asks a peer for a key. -/
def fetch (c : Cluster) (client : Client) (group key : String) : Cluster × Outcome :=
  let (c, outcome, _) := c.request get client group key
  (c, outcome)

/-- The cluster with other peers in the pool of a node. -/
def setPeers (c : Cluster) (addr : String) (peers : List String) : Cluster :=
  match c.node? addr with
  | some node => c.setNode { node with pool := node.pool.set peers }
  | none => c

end Cluster

end ReadThrough
