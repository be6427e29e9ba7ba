import ReadThrough.Proofs.Cluster.Lookup

/-!
# Healthy clusters

A plan says how the nodes of a cluster are started: each with its own address and a list of all of
them, with one group of the same name, and with the same ring. If the plan is healthy, all nodes
agree who owns a key, the owner knows that it does, and everybody else has a client for it.

## Main definitions

* `Site`, `Plan`, `Plan.start p`: how nodes are started, and the cluster they make
* `Plan.Healthy p`: all nodes are told the same
* `Plan.owner? p key`: the node a key belongs to

## Main results

* `Plan.Healthy.start_eq`: the cluster as it is started
* `Plan.Healthy.owner?_pool`: all nodes agree who owns a key
* `Plan.Healthy.pick?_pool`: whom a node asks for a key
-/

namespace ReadThrough

/-! ## Plans -/

/-- How one node is started. -/
structure Site where
  /-- The node's address, as it is told. -/
  addr : String
  /-- The peers it is given. -/
  peers : List String
  /-- The milliseconds after which it gives up a request. -/
  timeout : Nat
  /-- The bytes its group has room for. -/
  bytes : Nat
  /-- The milliseconds after which its group gives up a load, if any. -/
  limit : Option Nat

/-- The node's address without trailing slashes. -/
def Site.self (s : Site) : String := normalizeAddress s.addr

/-- How the nodes of a cluster are started. -/
structure Plan where
  /-- The name of the group at every node. -/
  group : String
  /-- The base path of the peer protocol. -/
  basePath : String
  /-- Number of points for each node on the ring. -/
  replicas : Nat
  /-- The hash of the ring, if not CRC-32. -/
  hash : Option Hash
  /-- The nodes. -/
  sites : List Site

namespace Plan

/-- The addresses of the nodes. -/
def addrs (p : Plan) : List String := p.sites.map Site.self

/-- The options of a node's pool. -/
def options (p : Plan) (s : Site) : Pool.Options := ⟨p.basePath, p.replicas, p.hash, s.timeout⟩

/-- A node as it is started, with one group and all its peers. -/
def node (p : Plan) (s : Site) : Except Fault Node := do
  let pool ← Pool.create s.addr (p.options s)
  let group ← (Group.create p.group s.bytes s.limit).registerPeers
  let registry ← Registry.empty.register ⟨group, .ofLoader fun _ => .never⟩
  return ⟨pool.set s.peers, registry⟩

/-- The cluster as it is started. Every request reaches its server as it is written. -/
def start (p : Plan) : Except Fault Cluster := do
  let nodes ← p.sites.mapM p.node
  return ⟨nodes, [], Route.plain, fun _ => true, [], [], []⟩

/-- The ring of all nodes. -/
def ring (p : Plan) : Ring := (Ring.empty p.replicas (p.hash.getD Hash.crc32)).add p.addrs

/-- The address of the node a key belongs to. -/
def owner? (p : Plan) (key : String) : Option String := p.ring.owner? key

/-- All nodes are told the same, and each has an address and points of its own. -/
structure Healthy (p : Plan) : Prop where
  group : p.group ≠ ""
  basePath : Pool.isBasePath p.basePath
  replicas : 1 ≤ p.replicas
  distinct : p.addrs.Nodup
  /-- Every node is given all of them, in any order and any number of times. -/
  peers : ∀ s ∈ p.sites, ∀ a, a ∈ s.peers.map normalizeAddress ↔ a ∈ p.addrs
  apart : Ring.Apart p.replicas (p.hash.getD Hash.crc32) p.addrs

/-- The pool of a node before it is given peers. -/
def barePool (p : Plan) (s : Site) : Pool := ⟨s.self, p.options s, (p.options s).ring, ∅⟩

/-- The pool of a node. -/
def pool (p : Plan) (s : Site) : Pool := (p.barePool s).set s.peers

/-- The group of a node. -/
def firstGroup (p : Plan) (s : Site) : Group :=
  { Group.create p.group s.bytes s.limit with hasPeers := true }

/-- A node as it is started. -/
def firstNode (p : Plan) (s : Site) : Node :=
  ⟨p.pool s, ⟨[⟨p.firstGroup s, .ofLoader fun _ => .never⟩], []⟩⟩

variable {p : Plan} {s o : Site} {key a : String}

theorem placed_ring (p : Plan) :
    Ring.Placed p.replicas (p.hash.getD Hash.crc32) p.addrs p.ring := (Ring.Placed.empty _ _).add _

/-- Keys belong to nodes only. -/
theorem exists_site (ho : p.owner? key = some a) : ∃ o ∈ p.sites, o.self = a :=
  List.mem_map.mp (p.placed_ring.mem_of_owner? ho)

namespace Healthy

/-! ## The start -/

theorem node_eq (h : p.Healthy) (s : Site) : p.node s = .ok (p.firstNode s) := by
  have hb : Pool.isBasePath (p.options s).basePath := h.basePath
  unfold node
  rw [Pool.create_of_isBasePath hb]
  rfl

theorem start_eq (h : p.Healthy) : p.start =
    .ok ⟨p.sites.map p.firstNode, [], Route.plain, fun _ => true, [], [], []⟩ := by
  have hnode : p.node = fun s => (pure (p.firstNode s) : Except Fault Node) := funext h.node_eq
  unfold start
  rw [hnode, List.mapM_pure]
  rfl

/-- A site is found by its address. -/
theorem find?_self (h : p.Healthy) (hs : s ∈ p.sites) :
    p.sites.find? (·.self == s.self) = some s := by
  cases hf : p.sites.find? (·.self == s.self) with
  | none => exact absurd (beq_self_eq_true s.self) (List.find?_eq_none.mp hf s hs)
  | some o =>
    have hself : o.self = s.self :=
      eq_of_beq (List.find?_some (p := fun x : Site => x.self == s.self) hf)
    rw [List.inj_on_of_nodup_map h.distinct (List.mem_of_find?_eq_some hf) hs hself]

/-- A node is found by its address, as it is started. -/
theorem find?_firstNode (h : p.Healthy) (hs : s ∈ p.sites) :
    (p.sites.map p.firstNode).find? (·.pool.self == s.self) = some (p.firstNode s) := by
  have hself : ((·.pool.self == s.self) ∘ p.firstNode) = (·.self == s.self) := rfl
  rw [List.find?_map, hself, h.find?_self hs]
  rfl

/-! ## Who owns a key -/

/-- All nodes agree who owns a key. -/
theorem owner?_pool (h : p.Healthy) (hs : s ∈ p.sites) (key : String) :
    (p.pool s).ring.owner? key = p.owner? key := by
  have hpool : Ring.Placed p.replicas (p.hash.getD Hash.crc32) (s.peers.map normalizeAddress)
      (p.pool s).ring := Pool.placed_set (p.barePool s) s.peers
  refine (p.placed_ring.owner?_congr hpool h.apart fun a => ?_).symm
  exact (h.peers s hs a).symm

/-- Every key belongs to one of the nodes. -/
theorem exists_owner (h : p.Healthy) (hs : s ∈ p.sites) (key : String) :
    ∃ o ∈ p.sites, p.owner? key = some o.self := by
  have hmem : s.self ∈ p.addrs := List.mem_map_of_mem hs
  obtain ⟨a, ha⟩ :=
    p.placed_ring.exists_owner? (Nat.one_le_iff_ne_zero.mp h.replicas) hmem key
  obtain ⟨o, ho, rfl⟩ := exists_site ha
  exact ⟨o, ho, ha⟩

/-- **Whom a node asks for a key**: nobody if the key is its own, and the owner otherwise. -/
theorem pick?_pool (h : p.Healthy) (hs : s ∈ p.sites) (ho : p.owner? key = some a) :
    (p.pool s).pick? key = if a = s.self then none else some (Client.create a p.basePath) := by
  have hpick := Pool.pick?_set (p.barePool s) s.peers key
  have howner : ((p.barePool s).set s.peers).ring.owner? key = some a :=
    (h.owner?_pool hs key).trans ho
  rw [howner] at hpick
  exact hpick

end Healthy

end Plan

end ReadThrough
