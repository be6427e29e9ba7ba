import ReadThrough.Peer.Pool
import ReadThrough.Text.Blank

/-!
# Configuration

A node is configured by named variables. A number that is missing or unreadable has its default;
white space around numbers and around the listed peers does not count, while addresses and the base
path are taken as they are.

## Main definitions

* `Config`: what a node is told
* `Config.ofVars var`: the configuration in variables
* `Config.poolOptions c`, `Config.loadLimit c`: what it says of the pool and of loads
-/

namespace ReadThrough

/-- What a node is told. -/
structure Config where
  /-- Port of the peer server. -/
  port : Nat := 8001
  /-- The address at which peers reach this node. -/
  selfAddr : String := "http://localhost:8001"
  /-- The addresses of all nodes, this one among them. -/
  peers : List String := ["http://localhost:8001"]
  /-- Byte budget of each group's store. -/
  cacheBytes : Nat := 2048
  /-- Number of points for each peer on the ring. -/
  replicas : Nat := Ring.defaultReplicas
  /-- The base path of the peer protocol. -/
  basePath : String := PeerPath.defaultBase
  /-- Milliseconds after which a peer request is given up. -/
  peerTimeout : Nat := 5000
  /-- Milliseconds after which a load is given up, or 0 for never. -/
  loadTimeout : Nat := 10000
  /-- Whether there is a front-end server. -/
  apiEnabled : Bool := false
  /-- Port of the front-end server. -/
  apiPort : Nat := 9999
  deriving DecidableEq, Repr

namespace Config

/-- The number below `bound` that a variable holds, or a default. -/
def number (bound : Nat) (value : Option String) (default : Nat) : Nat :=
  (value.bind fun s => Text.Numeral.parse? bound (Text.trimChars s.toList)).getD default

/-- The truth value that a variable holds, or a default. -/
def switch (value : Option String) (default : Bool) : Bool :=
  match value.map Text.trim with
  | some "true" => true
  | some "false" => false
  | _ => default

/-- The addresses between the commas of a list, without white space around them. -/
def addresses (list : String) : List String :=
  ((list.toList.splitOn ',').map Text.trimChars).filterMap fun cs =>
    if cs.isEmpty then none else some (String.ofList cs)

/-- The configuration in variables. -/
def ofVars (var : String → Option String) : Config :=
  let d : Config := {}
  let port := number UInt16.size (var "PORT") d.port
  let selfAddr := (var "SELF_ADDR").getD ("http://localhost:" ++ toString port)
  -- A list without addresses says no more than no list.
  let listed := ((var "PEERS").map addresses).getD []
  { port, selfAddr
    peers := if listed.isEmpty then [selfAddr] else listed
    cacheBytes := number UInt64.size (var "CACHE_BYTES") d.cacheBytes
    replicas := number UInt64.size (var "REPLICAS") d.replicas
    basePath := (var "BASE_PATH").getD d.basePath
    peerTimeout := number UInt64.size (var "PEER_TIMEOUT_MS") d.peerTimeout
    loadTimeout := number UInt64.size (var "LOAD_TIMEOUT_MS") d.loadTimeout
    apiEnabled := switch (var "API_ENABLED") d.apiEnabled
    apiPort := number UInt16.size (var "API_PORT") d.apiPort }

/-- What the configuration says of the node's pool. -/
def poolOptions (c : Config) : Pool.Options :=
  { basePath := c.basePath, replicas := c.replicas, peerTimeout := c.peerTimeout }

/-- The limit of a load, in milliseconds, if there is one. -/
def loadLimit (c : Config) : Option Nat := if c.loadTimeout = 0 then none else some c.loadTimeout

end Config

end ReadThrough
