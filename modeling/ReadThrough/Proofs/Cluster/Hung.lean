import ReadThrough.Config
import ReadThrough.Proofs.Cluster.Lookup

/-!
# Peers that never answer

A node asks the owner of a key, which takes the request and never answers. The client gives the
request up when the peer timeout is over, and the group goes on to its loader. One limit holds for
the whole load, though, and nothing in a configuration relates the two: a load whose limit is
shorter than the peer timeout is given up while the client still waits, and the loader is not
called.

## Main definitions

* `Cluster.View.Hangs v client group key d`: a client's request goes to a host that never answers
* `HungOwner conf loader c e`: a configured node, a lookup at it, and an owner that never answers
* `Config.Patient conf`: loads are not given up before requests to peers are

## Main results

* `Cluster.get_of_patient`, `Cluster.get_of_impatient`: the two ways such a lookup ends
* `Cluster.get_of_hung`: the configuration says which
-/

namespace ReadThrough

/-! ## Groups -/

namespace Group

variable {g : Group} {key name : String} {side : Side} {elapsed ms limit : Nat} {answer : Outcome}
  {fault : Fault} {value : Value}

/-- A load is over before a source's answer comes. -/
theorem resume_of_limit_lt (hlimit : g.limit = some limit) (hlt : limit < elapsed + ms) :
    g.resume key side elapsed (.later ms answer) = (g, .answered (overdue key limit)) := by
  unfold resume
  dsimp only
  rw [hlimit]
  dsimp only
  rw [if_pos hlt]

/-- Trouble with a peer that shows before the load is over is counted, and the loader is asked. -/
theorem resume_peer_fault (hin : ∀ limit, g.limit = some limit → elapsed + ms ≤ limit)
    (hfault : fault.recoverable = true) :
    g.resume key (.peer name) elapsed (.later ms (.error fault)) =
      (g.record .peerErrors, .asks .loader (elapsed + ms)) := by
  have hdeliver : g.deliver key (.peer name) (elapsed + ms) (.error fault) =
      (g.record .peerErrors, .asks .loader (elapsed + ms)) := by
    rw [deliver, receive, if_pos hfault]
  unfold resume
  cases hl : g.limit with
  | none => exact hdeliver
  | some limit =>
    dsimp only
    rw [if_neg (Nat.not_lt.mpr (hin limit hl)), hdeliver]

/-- A value that comes at once is the answer, however long the load has taken. -/
theorem resume_now_value : g.resume key side elapsed (.now (.ok value)) =
    ((g.receive key side (.ok value)).1, .answered (.ok value)) := by
  rw [resume, deliver, receive_value]

end Group

namespace Cluster

/-! ## Requests that are not answered -/

/-- A client's request goes to a host that never answers. -/
structure View.Hangs (v : View) (client : Client) (group key : String) (d : Dispatch) : Prop where
  route : v.route client group key = .ok d
  carries : v.carries d = true
  /-- It is sent to none of the nodes. -/
  elsewhere : ∀ a, d.isFor a = true → v.pool? a = none
  stub : ∃ addr, v.stubs.find? (fun stub => d.isFor (normalizeAddress stub.addr)) =
    some ⟨addr, none⟩

variable {f : Cluster → Errand → Cluster × Option Outcome} {c : Cluster} {client : Client}
  {e : Errand} {d : Dispatch} {group key name a : String} {pool : Pool} {m : Member} {n : Nat}
  {value : Value} {limit : Nat}

/-- The client waits until its deadline, and then for nothing. -/
theorem request_of_hangs (h : (c.view name).Hangs client group key d) :
    ∃ fault, c.request f client group key = (c.sent d.url, .error fault, true) ∧
      fault.recoverable = true := by
  have hnode : (c.nodes.find? fun node => d.isFor node.pool.self) = none := by
    rw [List.find?_eq_none]
    intro node hmem hfor
    have hpool : (c.node? node.pool.self).map (·.pool) = none := h.elsewhere _ hfor
    rw [Option.map_eq_none_iff, node?, List.find?_eq_none] at hpool
    exact hpool node hmem BEq.rfl
  have hsend : c.send f d = (c.sent d.url, .lost, true) := by
    obtain ⟨addr, hstub⟩ := h.stub
    have hcarries : c.carries d = true := h.carries
    have hstub' : (c.stubs.find? fun stub => d.isFor (normalizeAddress stub.addr)) =
        some ⟨addr, none⟩ := hstub
    unfold send
    rw [if_pos hcarries]
    dsimp only
    rw [hnode]
    dsimp only
    rw [hstub']
    rfl
  have hroute : c.route client group key = .ok d := h.route
  refine ⟨client.failure group key ("error sending request for url (" ++ d.url ++ ")"), ?_, rfl⟩
  rw [request, hroute]
  dsimp only
  rw [hsend]
  rfl

/-- The request is on the wire, and the group is as the end of the request left it. -/
theorem finish_of_hangs (hpool : (c.view e.group).pool? e.addr = some pool)
    (hm : (c.view e.group).member? e.addr = some m)
    (h : (c.view e.group).Hangs (Client.create name pool.options.basePath) e.group e.key d) :
    ∃ fault, fault.recoverable = true ∧ c.finish f e (n + 1) (.asks (.peer name) 0) =
      finish f e n ((c.sent d.url).setGroup e.addr (m.group.resume e.key (.peer name) 0
          (.later pool.options.peerTimeout (.error fault))).1)
        (m.group.resume e.key (.peer name) 0
          (.later pool.options.peerTimeout (.error fault))).2 := by
  obtain ⟨registry, hnode⟩ := exists_node?_of_view hpool
  obtain ⟨fault, hrequest, hfault⟩ := request_of_hangs (f := f) h
  have hmember : c.member? e.addr e.group = some m := hm
  have hmember' : (c.sent d.url).member? e.addr e.group = some m := hm
  refine ⟨fault, hfault, ?_⟩
  rw [finish]
  simp only [hnode, hmember, ask, hrequest, hmember']

/-- A loader that answers at once ends the lookup, however late it is asked. -/
theorem finish_loader_now {elapsed : Nat} (hpool : (c.view e.group).pool? e.addr = some pool)
    (hm : (c.view e.group).member? e.addr = some m)
    (hnow : m.around.ask .loader e.key = .now (.ok value)) :
    c.finish f e (n + 1) (.asks .loader elapsed) =
      ((c.called e).setGroup e.addr (m.group.receive e.key .loader (.ok value)).1,
        some (.ok value)) := by
  obtain ⟨registry, hnode⟩ := exists_node?_of_view hpool
  have hmember : c.member? e.addr e.group = some m := hm
  have hmember' : (c.called e).member? e.addr e.group = some m := hm
  have hask : c.ask f ⟨pool, registry⟩ m e .loader = (c.called e, .now (.ok value)) := by
    rw [← hnow]
    rfl
  rw [finish]
  simp only [hnode, hmember, hask, hmember']
  rw [Group.resume_now_value]
  dsimp only
  cases n <;> rw [finish]

end Cluster

/-! ## Owners that never answer -/

/-- Loads are not given up before requests to peers are. -/
def Config.Patient (conf : Config) : Prop :=
  conf.loadTimeout = 0 ∨ conf.peerTimeout ≤ conf.loadTimeout

instance (conf : Config) : Decidable conf.Patient :=
  inferInstanceAs (Decidable (conf.loadTimeout = 0 ∨ conf.peerTimeout ≤ conf.loadTimeout))

namespace Config

variable {conf : Config}

theorem Patient.le_of_loadLimit (h : conf.Patient) :
    ∀ limit, conf.loadLimit = some limit → conf.peerTimeout ≤ limit := by
  intro limit hlimit
  unfold loadLimit at hlimit
  split at hlimit
  · contradiction
  · next hne =>
    obtain rfl := Option.some.inj hlimit
    exact h.resolve_left hne

theorem loadLimit_of_not_patient (h : ¬ conf.Patient) :
    conf.loadLimit = some conf.loadTimeout ∧ conf.loadTimeout < conf.peerTimeout := by
  obtain ⟨hne, hlt⟩ := not_or.mp h
  exact ⟨if_neg hne, Nat.not_le.mp hlt⟩

end Config

/-- A node that is told `conf`, whose loader answers every key at once, and the lookup of a key
there that is not stored and belongs to another host, which takes requests for it and never
answers. -/
structure HungOwner (conf : Config) (loader : String → Value) (c : Cluster) (e : Errand) where
  /-- The node's pool, before it knew of peers. -/
  pool : Pool
  /-- The peers it knows of. -/
  addrs : List String
  /-- The address of the owner. -/
  owner : String
  /-- The request to it. -/
  dispatch : Dispatch
  /-- The node's group. -/
  member : Member
  created : Pool.create conf.selfAddr conf.poolOptions = .ok pool
  pool? : (c.view e.group).pool? e.addr = some (pool.set addrs)
  owner? : (pool.set addrs).ring.owner? e.key = some owner
  remote : owner ≠ pool.self
  hangs : (c.view e.group).Hangs (Client.create owner conf.basePath) e.group e.key dispatch
  member? : (c.view e.group).member? e.addr = some member
  peers : member.group.hasPeers = true
  limit : member.group.limit = conf.loadLimit
  loads : ∀ key, member.around.ask .loader key = .now (.ok (loader key))
  absent : member.group.store.find? e.key = none
  key : e.key ≠ ""
  free : e ∉ c.underway

namespace HungOwner

variable {conf : Config} {loader : String → Value} {c : Cluster} {e : Errand}
  (h : HungOwner conf loader c e)

include h

theorem options_eq : h.pool.options = conf.poolOptions := Pool.options_of_create h.created

theorem name_eq : h.member.group.name = e.group := by
  obtain ⟨node, -, hfind⟩ := Option.bind_eq_some_iff.mp h.member?
  exact Registry.name_of_find? hfind

/-- The owner is the peer that is asked. -/
theorem pick?_eq :
    (h.pool.set h.addrs).pick? e.key = some (Client.create h.owner conf.basePath) := by
  have hbase : h.pool.options.basePath = conf.basePath := congrArg (·.basePath) h.options_eq
  rw [Pool.pick?_set, h.owner?, Option.bind_some, if_neg h.remote, hbase]

/-- The cluster while the owner is asked. -/
def asking : Cluster := (c.begun e (h.member.group.missed e.key)).sent h.dispatch.url

theorem view_begun : (c.begun e (h.member.group.missed e.key)).view e.group =
    { (c.view e.group).put e.addr (h.member.group.missed e.key) with
      underway := e :: c.underway } :=
  Cluster.view_begun ((Group.name_of_setup Group.setup_missed).trans h.name_eq)

theorem member?_begun : ((c.begun e (h.member.group.missed e.key)).view e.group).member? e.addr =
    some { h.member with group := h.member.group.missed e.key } := by
  rw [h.view_begun]
  exact Cluster.View.member?_put_self h.member?

theorem pool?_begun : ((c.begun e (h.member.group.missed e.key)).view e.group).pool? e.addr =
    some (h.pool.set h.addrs) := by
  rw [h.view_begun]
  exact h.pool?

theorem limit_missed : (h.member.group.missed e.key).limit = conf.loadLimit :=
  (Group.limit_of_setup Group.setup_missed).trans h.limit

/-- The lookup goes on when the request is given up, or the load. -/
theorem get_eq : ∃ fault, fault.recoverable = true ∧
    c.get e =
      let (g, stage) := (h.member.group.missed e.key).resume e.key
        (.peer (normalizeAddress h.owner)) 0 (.later conf.peerTimeout (.error fault))
      let (c', outcome) := Cluster.finish (Cluster.getWithin c.nodes.length) e 1
        (h.asking.setGroup e.addr g) stage
      ({ c' with underway := c'.underway.erase e }, outcome) := by
  have hbase : (h.pool.set h.addrs).options.basePath = conf.basePath :=
    congrArg (·.basePath) h.options_eq
  have htimeout : (h.pool.set h.addrs).options.peerTimeout = conf.peerTimeout :=
    congrArg (·.peerTimeout) h.options_eq
  have hside : h.member.group.firstSide (((h.pool.set h.addrs).pick? e.key).map (·.baseUrl)) =
      .peer (normalizeAddress h.owner) := by
    rw [h.pick?_eq, Option.map_some, Group.firstSide_some h.peers]
    rfl
  -- The name of a peer is its address as the pool has it, so that naming it again changes nothing.
  have hclient : Client.create (normalizeAddress h.owner) conf.basePath =
      Client.create h.owner conf.basePath := by
    rw [Client.create, Client.create, normalizeAddress_normalizeAddress]
  have hhangs : ((c.begun e (h.member.group.missed e.key)).view e.group).Hangs
      (Client.create (normalizeAddress h.owner) (h.pool.set h.addrs).options.basePath) e.group e.key
        h.dispatch := by
    rw [hbase, hclient, h.view_begun]
    exact ⟨h.hangs.route, h.hangs.carries, h.hangs.elsewhere, h.hangs.stub⟩
  obtain ⟨fault, hfault, hfinish⟩ := Cluster.finish_of_hangs
    (f := Cluster.getWithin c.nodes.length) (n := 1) h.pool?_begun h.member?_begun hhangs
  refine ⟨fault, hfault, ?_⟩
  rw [Cluster.get, Cluster.getWithin_of_absent h.pool? h.member? h.key h.absent h.free rfl hside]
  rw [htimeout] at hfinish
  rw [← Group.missed, hfinish]
  rfl

theorem calls_asking : h.asking.calls = c.calls := Cluster.calls_setGroup

/-- The group may have counted something while the owner was asked. -/
theorem view_asking (g : Group) (hg : g.setup = (h.member.group.missed e.key).setup) :
    ((h.asking.setGroup e.addr g).view e.group).pool? e.addr = some (h.pool.set h.addrs) ∧
      ((h.asking.setGroup e.addr g).view e.group).member? e.addr =
        some { h.member with group := g } := by
  have hname : g.name = e.group :=
    (Group.name_of_setup (hg.trans Group.setup_missed)).trans h.name_eq
  have hput := Cluster.View.member?_put_self (g := g) h.member?_begun
  rw [Cluster.view_setGroup hname]
  exact ⟨h.pool?_begun, hput⟩

end HungOwner

namespace Cluster

variable {conf : Config} {loader : String → Value} {c : Cluster} {e : Errand}

/-- A load that is not given up before the request comes to the loader's value. -/
theorem get_of_patient (h : HungOwner conf loader c e) (hpatient : conf.Patient) :
    ∃ c', c.get e = (c', some (.ok (loader e.key))) ∧
      c'.calls = c.calls ++ [(e.addr, ⟨e.group, .loader, e.key⟩)] := by
  obtain ⟨fault, hfault, hget⟩ := h.get_eq
  have hin : ∀ limit, (h.member.group.missed e.key).limit = some limit →
      0 + conf.peerTimeout ≤ limit := by
    rw [h.limit_missed, Nat.zero_add]
    exact hpatient.le_of_loadLimit
  rw [Group.resume_peer_fault hin hfault] at hget
  dsimp only at hget
  -- The loader is asked in the group that has counted the trouble.
  obtain ⟨hpool, hmember⟩ := h.view_asking ((h.member.group.missed e.key).record .peerErrors) rfl
  rw [finish_loader_now hpool hmember (h.loads e.key)] at hget
  refine ⟨_, hget, ?_⟩
  show (Cluster.setGroup _ _ _).calls = _
  rw [calls_setGroup]
  show (Cluster.setGroup _ _ _).calls ++ _ = _
  rw [calls_setGroup, h.calls_asking]

/-- A load that is given up before the request comes to nothing. -/
theorem get_of_impatient (h : HungOwner conf loader c e) (hpatient : ¬ conf.Patient) :
    ∃ c', c.get e = (c', some (Group.overdue e.key conf.loadTimeout)) ∧ c'.calls = c.calls := by
  obtain ⟨fault, -, hget⟩ := h.get_eq
  obtain ⟨hlimit, hlt⟩ := Config.loadLimit_of_not_patient hpatient
  rw [Group.resume_of_limit_lt (h.limit_missed.trans hlimit) (by omega)] at hget
  dsimp only at hget
  rw [finish] at hget
  refine ⟨_, hget, ?_⟩
  show (Cluster.setGroup _ _ _).calls = _
  rw [calls_setGroup, h.calls_asking]

/-- **The configuration says whether trouble with an owner is hidden.** Requests that are given up
no later than loads leave the lookup with the loader's value, and so do loads that are never given
up. Otherwise the lookup ends when the load is given up, and the loader is not called. -/
theorem get_of_hung {var : String → Option String} (h : HungOwner (.ofVars var) loader c e) :
    ((Config.ofVars var).Patient → ∃ c', c.get e = (c', some (.ok (loader e.key))) ∧
      c'.calls = c.calls ++ [(e.addr, ⟨e.group, .loader, e.key⟩)]) ∧
    (¬ (Config.ofVars var).Patient →
      ∃ c', c.get e = (c', some (.error (.timeout ("loading " ++ e.key ++ " exceeded " ++
        Text.Duration.describe (Config.ofVars var).loadTimeout)))) ∧ c'.calls = c.calls) :=
  ⟨get_of_patient h, get_of_impatient h⟩

/-! ### A node beside a host that never answers -/

/-- Variables that set the timeouts of a node. -/
def timeouts (peer load name : String) : Option String :=
  if name = "SELF_ADDR" then some "http://a"
  else if name = "PEER_TIMEOUT_MS" then some peer
  else if name = "LOAD_TIMEOUT_MS" then some load
  else none

/-- What the loader answers. -/
def letter : Value := ⟨[0x76]⟩

/-- A node, and the only peer it knows of. -/
def besideHung (conf : Config) : Cluster where
  nodes := [⟨Pool.set ⟨"http://a", conf.poolOptions, conf.poolOptions.ring, ∅⟩ ["http://b"],
    ⟨[⟨{ Group.create "g" 100 conf.loadLimit with hasPeers := true },
      .ofLoader fun _ => .now (.ok letter)⟩], []⟩⟩]
  stubs := [⟨"http://b", none⟩]
  route := .plain
  carries _ := true
  underway := []
  wire := []
  calls := []

/-- Every key is the other host's. -/
def hungOwner (conf : Config) (hself : conf.selfAddr = "http://a") (hreplicas : conf.replicas ≠ 0)
    (hbase : conf.basePath = PeerPath.defaultBase) :
    HungOwner conf (fun _ => letter) (besideHung conf) ⟨"http://a", "g", "k"⟩ where
  pool := ⟨"http://a", conf.poolOptions, conf.poolOptions.ring, ∅⟩
  addrs := ["http://b"]
  owner := "http://b"
  dispatch := ⟨(Client.create "http://b" conf.basePath).url "g" "k",
    (Client.create "http://b" conf.basePath).path "g" "k", "", fun addr => addr == "http://b"⟩
  member := ⟨{ Group.create "g" 100 conf.loadLimit with hasPeers := true },
    .ofLoader fun _ => .now (.ok letter)⟩
  created := by
    have hpath : Pool.isBasePath conf.poolOptions.basePath := by
      show Pool.isBasePath conf.basePath
      rw [hbase]
      decide +kernel
    rw [Pool.create_of_isBasePath hpath, hself]
    rfl
  pool? := rfl
  owner? := by
    have hplaced := Pool.placed_set
      ⟨"http://a", conf.poolOptions, conf.poolOptions.ring, ∅⟩ ["http://b"]
    obtain ⟨owner, howner⟩ := hplaced.exists_owner? hreplicas List.mem_cons_self "k"
    have hmem := hplaced.mem_of_owner? howner
    rw [howner, List.mem_singleton.mp hmem]
    decide
  remote := by
    show "http://b" ≠ "http://a"
    decide
  hangs := by
    refine ⟨rfl, rfl, ?_, "http://b", ?_⟩
    · intro a ha
      obtain rfl : a = "http://b" := eq_of_beq ha
      rfl
    · rfl
  member? := rfl
  peers := rfl
  limit := rfl
  loads _ := rfl
  absent := Store.Sound.find?_empty 100
  key := by decide
  free := List.not_mem_nil

/-- Loads that take a second at most are given up while the client waits. -/
theorem not_get_of_hung : ¬ ∀ (var : String → Option String) (loader : String → Value) (c : Cluster)
    (e : Errand), HungOwner (.ofVars var) loader c e →
      (c.get e).2 = some (.ok (loader e.key)) := by
  intro all
  have h := hungOwner (.ofVars (timeouts "5000" "1000")) (by decide) (by decide) (by decide)
  have himpatient : ¬ (Config.ofVars (timeouts "5000" "1000")).Patient := by decide
  obtain ⟨c', hget, -⟩ := get_of_impatient h himpatient
  have hvalue := all _ _ _ _ h
  rw [hget] at hvalue
  cases hvalue

/-- Two timeouts of five seconds, no limit of loads at all, and a limit that is over while the
client still waits. -/
theorem get_of_hung_timeouts :
    (∃ c', (besideHung (.ofVars (timeouts "5000" "5000"))).get ⟨"http://a", "g", "k"⟩ =
      (c', some (.ok letter)) ∧ c'.calls = [("http://a", ⟨"g", .loader, "k"⟩)]) ∧
    (∃ c', (besideHung (.ofVars (timeouts "5000" "0"))).get ⟨"http://a", "g", "k"⟩ =
      (c', some (.ok letter)) ∧ c'.calls = [("http://a", ⟨"g", .loader, "k"⟩)]) ∧
    ∃ c', (besideHung (.ofVars (timeouts "5000" "1000"))).get ⟨"http://a", "g", "k"⟩ =
      (c', some (.error (.timeout "loading k exceeded 1s"))) ∧ c'.calls = [] := by
  have hequal := hungOwner (.ofVars (timeouts "5000" "5000")) (by decide) (by decide) (by decide)
  have hoff := hungOwner (.ofVars (timeouts "5000" "0")) (by decide) (by decide) (by decide)
  have hshort := hungOwner (.ofVars (timeouts "5000" "1000")) (by decide) (by decide) (by decide)
  have htext : "loading " ++ "k" ++ " exceeded " ++
      Text.Duration.describe (Config.ofVars (timeouts "5000" "1000")).loadTimeout =
        "loading k exceeded 1s" := by decide +kernel
  rw [← htext]
  exact ⟨(get_of_hung hequal).1 (by decide), (get_of_hung hoff).1 (by decide),
    (get_of_hung hshort).2 (by decide)⟩

end Cluster

end ReadThrough
