import ReadThrough.Proofs.Cluster.Plan

/-!
# Visits to a healthy cluster

Loaders may answer differently every time, so a visit says what they answer to the lookup it makes.
Between visits every store is in order and has only what owners have made. A lookup is answered from
the store of its node, from that of the owner, or by the owner's loader; either way at most two
groups are touched, and the cluster is as before the lookup in every other respect.

## Main definitions

* `Visit`, `Cluster.visit c v`: a lookup, with what loaders answer meanwhile
* `Plan.Orderly p v`: the lookup of a key at a node, while all loaders answer in time
* `Plan.Steady p made c`: between any two visits
* `Plan.Source`, `Plan.Visited`: where a value comes from, and what comes of a lookup

## Main results

* `Plan.Steady.visited`: a visit is answered by way of the owner of the key
* `Plan.Visited.steady`: the next state is one between visits
-/

namespace ReadThrough

/-- A lookup, and what the loader of each node answers meanwhile. -/
structure Visit where
  /-- What the loader of the node at an address answers. -/
  loaders : String → Loader
  /-- The lookup. -/
  errand : Errand

/-! ## Loaders -/

/-- The registry with another loader for all groups. -/
def Registry.withLoader (r : Registry) (loader : Loader) : Registry :=
  { r with members := r.members.map ({ · with around := .ofLoader loader }) }

theorem Registry.find?_withLoader {r : Registry} {loader : Loader} {name : String} :
    (r.withLoader loader).find? name =
      (r.find? name).map ({ · with around := .ofLoader loader }) :=
  List.find?_map ..

namespace Cluster

variable {c : Cluster} {loaders : String → Loader} {a name : String}

/-- The cluster with other loaders. -/
def withLoaders (c : Cluster) (loaders : String → Loader) : Cluster :=
  { c with
    nodes := c.nodes.map fun n => { n with registry := n.registry.withLoader (loaders n.pool.self) } }

/-- The cluster after a visit, and the answer to it. -/
def visit (c : Cluster) (v : Visit) : Cluster × Option Outcome :=
  (c.withLoaders v.loaders).get v.errand

theorem node?_withLoaders : (c.withLoaders loaders).node? a =
    (c.node? a).map fun n => { n with registry := n.registry.withLoader (loaders n.pool.self) } :=
  List.find?_map ..

theorem view_withLoaders : (c.withLoaders loaders).view name =
    { c.view name with
      member? := fun a => (c.member? a name).map ({ · with around := .ofLoader (loaders a) }) } := by
  have hpool : ∀ a, ((c.withLoaders loaders).node? a).map (·.pool) = (c.node? a).map (·.pool) := by
    intro a
    rw [node?_withLoaders, Option.map_map]
    rfl
  have hmember : ∀ a, (c.withLoaders loaders).member? a name =
      (c.member? a name).map ({ · with around := .ofLoader (loaders a) }) := by
    intro a
    rw [member?, node?_withLoaders, member?]
    cases hn : c.node? a with
    | none => rfl
    | some n =>
      rw [Option.map_some, Option.bind_some, Option.bind_some, self_of_node? hn]
      exact Registry.find?_withLoader
  exact View.ext (funext hpool) (funext hmember) rfl rfl rfl rfl rfl rfl

/-- There are nodes if one is found. -/
theorem exists_length_eq_succ {node : Node} (h : c.node? a = some node) :
    ∃ n, c.nodes.length = n + 1 :=
  Nat.exists_eq_succ_of_ne_zero (List.length_pos_of_mem (List.mem_of_find?_eq_some h)).ne'

end Cluster

/-! ## Between visits -/

namespace Plan

/-- The group of a node between any two visits; `made key value` says that the owner's loader once
made the value of the key. -/
structure Holds (p : Plan) (made : String → Value → Prop) (s : Site) (g : Group) : Prop where
  setup : g.setup = (p.group, s.limit, true)
  sound : g.store.Sound
  made : ∀ key value, g.store.find? key = some value → made key value

/-- The cluster between any two visits. -/
structure Steady (p : Plan) (made : String → Value → Prop) (c : Cluster) : Prop where
  pool : ∀ s ∈ p.sites, (c.view p.group).pool? s.self = some (p.pool s)
  group : ∀ s ∈ p.sites, ∃ m, (c.view p.group).member? s.self = some m ∧ p.Holds made s m.group
  route : c.route = Route.plain
  carries : ∀ d, c.carries d = true
  underway : c.underway = []

/-- The lookup of a key at one of the nodes, while every loader answers every key in time with a
value, whose length fits into an envelope. -/
structure Orderly (p : Plan) (v : Visit) : Prop where
  addr : v.errand.addr ∈ p.addrs
  group : v.errand.group = p.group
  key : v.errand.key ≠ ""
  loaders : ∀ s ∈ p.sites, ∀ key, ∃ value, (v.loaders s.self key).Gives s.limit value ∧
    value.bytes.length < 2 ^ 64

variable {p : Plan} {made : String → Value → Prop} {c c' : Cluster} {v : Visit} {s o : Site}
  {value : Value} {key : String}

/-- Where the value of a lookup comes from, whose key belongs to the node at `a`. -/
inductive Source (p : Plan) (e : Errand) (loaders : String → Loader) (a : String) (value : Value)
    (c c' : Cluster) : Prop where
  /-- Some store has it. -/
  | found {s : Site} {m : Member} (calls : c'.calls = c.calls) (hs : s ∈ p.sites)
      (hm : (c.view p.group).member? s.self = some m)
      (hv : m.group.store.find? e.key = some value)
  /-- The owner's store has nothing for the key, so the owner's loader is called. -/
  | loaded {limit : Option Nat} {m m' : Member}
      (calls : c'.calls = c.calls ++ [(a, ⟨p.group, .loader, e.key⟩)])
      (gives : (loaders a e.key).Gives limit value) (size : value.bytes.length < 2 ^ 64)
      (before : (c.view p.group).member? a = some m)
      (after : (c'.view p.group).member? a = some m')
      (absent : m.group.store.find? e.key = none)
      (store : m'.group.store = ((m.group.store.missed e.key).add e.key value).1)

/-- What comes of a lookup whose key belongs to the node at `a`. -/
structure Visited (p : Plan) (e : Errand) (loaders : String → Loader) (a : String) (value : Value)
    (c c' : Cluster) : Prop where
  pool? : (c'.view p.group).pool? = (c.view p.group).pool?
  route : c'.route = c.route
  carries : c'.carries = c.carries
  underway : c'.underway = c.underway
  /-- There is one request at most. -/
  wire : c'.wire = c.wire ∨ ∃ url, c'.wire = c.wire ++ [url]
  /-- Every group is looked into, or gets the value. -/
  touched : ∀ s ∈ p.sites, ∀ m, (c.view p.group).member? s.self = some m →
    ∃ m', (c'.view p.group).member? s.self = some m' ∧ m.group.Touched e.key value m'.group
  source : p.Source e loaders a value c c'

variable {e : Errand} {m om : Member} {g og : Group} {a b : String} {loaders : String → Loader}

theorem Holds.name_eq (h : p.Holds made s g) : g.name = p.group := congrArg Prod.fst h.setup

/-- Two groups at most are concerned by a lookup. -/
theorem Steady.touched (hc : p.Steady made c) (hm : (c.view p.group).member? a = some m)
    (hom : (c.view p.group).member? b = some om)
    (ha : (c'.view p.group).member? a = some { m with group := g })
    (hb : (c'.view p.group).member? b = some { om with group := og })
    (ht : m.group.Touched key value g) (hot : om.group.Touched key value og)
    (hrest : ∀ d, d ≠ a → d ≠ b →
      (c'.view p.group).member? d = (c.view p.group).member? d) :
    ∀ s ∈ p.sites, ∀ m, (c.view p.group).member? s.self = some m →
      ∃ m', (c'.view p.group).member? s.self = some m' ∧ m.group.Touched key value m'.group := by
  intro s hs x hx
  by_cases hsa : s.self = a
  · rw [hsa] at hx ⊢
    obtain rfl := Option.some.inj (hm.symm.trans hx)
    exact ⟨_, ha, ht⟩
  · by_cases hsb : s.self = b
    · rw [hsb] at hx ⊢
      obtain rfl := Option.some.inj (hom.symm.trans hx)
      exact ⟨_, hb, hot⟩
    · obtain ⟨y, hy, holds⟩ := hc.group s hs
      obtain rfl := Option.some.inj (hy.symm.trans hx)
      exact ⟨y, (hrest _ hsa hsb).trans hx, .refl holds.sound⟩

/-- A lookup that the node answers from its store. -/
theorem Steady.visited_of_hit (hc : p.Steady made c) (hs : s ∈ p.sites)
    (hm : (c.view p.group).member? s.self = some m) (holds : p.Holds made s m.group)
    (hk : key ≠ "") (hv : m.group.store.find? key = some value) :
    ∃ c', c.get ⟨s.self, p.group, key⟩ = (c', some (.ok value)) ∧
      p.Visited ⟨s.self, p.group, key⟩ loaders a value c c' := by
  obtain ⟨c', hget, hview⟩ := Cluster.getWithin_hit (n := c.nodes.length)
    (e := ⟨s.self, p.group, key⟩) (hc.pool s hs) hm holds.name_eq hk hv
  have hview' : c'.view p.group = (c.view p.group).put s.self (m.group.look key).1 := hview
  have hput : (c'.view p.group).member? s.self = some { m with group := (m.group.look key).1 } := by
    rw [hview']
    exact Cluster.View.member?_put_self hm
  have ht : m.group.Touched key value (m.group.look key).1 := .look hk holds.sound
  refine ⟨c', hget, ?_, ?_, ?_, ?_, ?_, ?_, ?_⟩
  · exact (congrArg Cluster.View.pool? hview').trans rfl
  · exact congrArg Cluster.View.route hview'
  · exact congrArg Cluster.View.carries hview'
  · exact congrArg Cluster.View.underway hview'
  · exact .inl (congrArg Cluster.View.wire hview')
  · refine hc.touched hm hm hput hput ht ht ?_
    intro d hd _
    rw [hview']
    exact Cluster.View.member?_put_of_ne hd
  · exact .found (congrArg Cluster.View.calls hview') hs hm hv

/-- A lookup that the owner has to load. -/
theorem Steady.visited_of_own (h : p.Healthy) (hc : p.Steady made c) (hs : s ∈ p.sites)
    (hm : (c.view p.group).member? s.self = some m) (holds : p.Holds made s m.group)
    (haround : m.around = .ofLoader (loaders s.self)) (hk : key ≠ "")
    (howner : p.owner? key = some s.self) (hv : m.group.store.find? key = none)
    (hgives : (loaders s.self key).Gives s.limit value) (hsize : value.bytes.length < 2 ^ 64) :
    ∃ c', c.get ⟨s.self, p.group, key⟩ = (c', some (.ok value)) ∧
      p.Visited ⟨s.self, p.group, key⟩ loaders s.self value c c' := by
  have hpick : (p.pool s).pick? key = none := by
    rw [h.pick?_pool hs howner, if_pos rfl]
  have hlimit : m.group.limit = s.limit := congrArg (fun x => x.2.1) holds.setup
  have hanswer : (m.around.ask .loader key).Gives m.group.limit value := by
    rw [haround, hlimit]
    exact hgives
  have hunder : (⟨s.self, p.group, key⟩ : Errand) ∉ c.underway := by
    rw [hc.underway]
    exact List.not_mem_nil
  obtain ⟨c', hget, hview⟩ := Cluster.getWithin_own (n := c.nodes.length)
    (e := ⟨s.self, p.group, key⟩) (hc.pool s hs) hm holds.name_eq hk hv hpick hunder
    hanswer
  have hview' : c'.view p.group =
      { (c.view p.group).put s.self (m.group.loadedFrom key .loader value) with
        calls := c.calls ++ [(s.self, ⟨p.group, .loader, key⟩)] } := hview
  have hmember? : (c'.view p.group).member? =
      ((c.view p.group).put s.self (m.group.loadedFrom key .loader value)).member? :=
    (congrArg Cluster.View.member? hview').trans rfl
  have hput : (c'.view p.group).member? s.self =
      some { m with group := m.group.loadedFrom key .loader value } := by
    rw [hmember?]
    exact Cluster.View.member?_put_self hm
  have ht : m.group.Touched key value (m.group.loadedFrom key .loader value) := .loadedFrom hk hv
  refine ⟨c', hget, ?_, ?_, ?_, ?_, ?_, ?_, ?_⟩
  · exact (congrArg Cluster.View.pool? hview').trans rfl
  · exact congrArg Cluster.View.route hview'
  · exact congrArg Cluster.View.carries hview'
  · exact congrArg Cluster.View.underway hview'
  · exact .inl (congrArg Cluster.View.wire hview')
  · refine hc.touched hm hm hput hput ht ht ?_
    intro d hd _
    rw [hmember?]
    exact Cluster.View.member?_put_of_ne hd
  · exact .loaded (congrArg Cluster.View.calls hview') hgives hsize hm hput hv
      (Group.store_loadedFrom hk)

/-- What a node gets from the owner of a key, which answers as `hserve` says. -/
theorem Steady.visited_of_remote (h : p.Healthy) (hc : p.Steady made c) (hs : s ∈ p.sites)
    (ho : o ∈ p.sites) (hne : s.self ≠ o.self) (hm : (c.view p.group).member? s.self = some m)
    (holds : p.Holds made s m.group) (hom : (c.view p.group).member? o.self = some om)
    (honame : om.group.name = p.group) (hk : key ≠ "")
    (howner : p.owner? key = some o.self) (hv : m.group.store.find? key = none)
    (hsize : value.bytes.length < 2 ^ 64) (hot : om.group.Touched key value og)
    (calls : List (String × SourceCall))
    (hserve : ∀ {c₁ : Cluster} {n : Nat}, (c₁.view p.group).pool? = (c.view p.group).pool? →
      (c₁.view p.group).member? o.self =
        some { om with group := om.group.record .serverRequests } →
      c₁.underway = [⟨s.self, p.group, key⟩] → c₁.calls = c.calls →
      ∃ c₂, c₁.getWithin (n + 1) ⟨o.self, p.group, key⟩ = (c₂, some (.ok value)) ∧
        c₂.view p.group = { (c₁.view p.group).put o.self og with calls })
    (hsource : ∀ c' : Cluster, c'.calls = calls →
      (c'.view p.group).member? o.self = some { om with group := og } →
      p.Source ⟨s.self, p.group, key⟩ loaders o.self value c c') :
    ∃ c', c.get ⟨s.self, p.group, key⟩ = (c', some (.ok value)) ∧
      p.Visited ⟨s.self, p.group, key⟩ loaders o.self value c c' := by
  have hpick : (p.pool s).pick? key = some (Client.create o.self p.basePath) := by
    rw [h.pick?_pool hs howner, if_neg hne.symm]
  have hpeers : m.group.hasPeers = true := congrArg (fun x => x.2.2) holds.setup
  have hunder : (⟨s.self, p.group, key⟩ : Errand) ∉ c.underway := by
    rw [hc.underway]
    exact List.not_mem_nil
  -- There is a node, so the fuel is enough for the lookup at the owner.
  obtain ⟨registry, hnode⟩ := Cluster.exists_node?_of_view (hc.pool s hs)
  obtain ⟨n, hn⟩ := Cluster.exists_length_eq_succ hnode
  obtain ⟨c', hget, hview⟩ := Cluster.getWithin_remote (n := n + 1)
    (e := ⟨s.self, p.group, key⟩) (hc.pool s hs) hm holds.name_eq hk hv hunder hpeers
    hpick hc.route hc.carries (normalizeAddress_normalizeAddress o.addr) hne h.basePath h.group
    (hc.pool o ho) rfl hom honame hsize rfl
    (fun _ hpool hmember hstack hcalls =>
      hserve hpool hmember (hstack.trans (congrArg _ hc.underway)) hcalls)
  have hview' : c'.view p.group =
      { ((c.view p.group).put o.self og).put s.self (m.group.loadedFrom key (.peer o.self) value) with
        wire := c.wire ++ [(Client.create o.self p.basePath).url p.group key]
        calls } := hview
  have hmember? : (c'.view p.group).member? = (((c.view p.group).put o.self og).put s.self
      (m.group.loadedFrom key (.peer o.self) value)).member? :=
    (congrArg Cluster.View.member? hview').trans rfl
  have hown : (c'.view p.group).member? o.self = some { om with group := og } := by
    rw [hmember?, Cluster.View.member?_put_of_ne hne.symm]
    exact Cluster.View.member?_put_self hom
  have hput : (c'.view p.group).member? s.self =
      some { m with group := m.group.loadedFrom key (.peer o.self) value } := by
    rw [hmember?]
    exact Cluster.View.member?_put_self ((Cluster.View.member?_put_of_ne hne).trans hm)
  have hget' : c.get ⟨s.self, p.group, key⟩ = (c', some (.ok value)) := by
    rw [Cluster.get, hn]
    exact hget
  refine ⟨c', hget', ?_, ?_, ?_, ?_, ?_, ?_, ?_⟩
  · exact (congrArg Cluster.View.pool? hview').trans rfl
  · exact congrArg Cluster.View.route hview'
  · exact congrArg Cluster.View.carries hview'
  · exact congrArg Cluster.View.underway hview'
  · exact .inr ⟨_, congrArg Cluster.View.wire hview'⟩
  · refine hc.touched hm hom hput hown (.loadedFrom hk hv) hot ?_
    intro d hd hdo
    rw [hmember?, Cluster.View.member?_put_of_ne hd, Cluster.View.member?_put_of_ne hdo]
  · exact hsource c' (congrArg Cluster.View.calls hview') hown

/-- A lookup that the owner answers another node from its store. -/
theorem Steady.visited_of_remote_hit (h : p.Healthy) (hc : p.Steady made c) (hs : s ∈ p.sites)
    (ho : o ∈ p.sites) (hne : s.self ≠ o.self) (hm : (c.view p.group).member? s.self = some m)
    (holds : p.Holds made s m.group) (hom : (c.view p.group).member? o.self = some om)
    (oholds : p.Holds made o om.group) (hk : key ≠ "") (howner : p.owner? key = some o.self)
    (hv : m.group.store.find? key = none) (hov : om.group.store.find? key = some value)
    (hsize : value.bytes.length < 2 ^ 64) :
    ∃ c', c.get ⟨s.self, p.group, key⟩ = (c', some (.ok value)) ∧
      p.Visited ⟨s.self, p.group, key⟩ loaders o.self value c c' := by
  have ht : (om.group.record .serverRequests).Touched key value
      ((om.group.record .serverRequests).look key).1 := .look hk oholds.sound
  refine hc.visited_of_remote h hs ho hne hm holds hom oholds.name_eq hk howner hv hsize ht.of_record
    c.calls ?_ fun c' hcalls _ => .found hcalls ho hom hov
  intro c₁ n hpool hmember _ hcalls
  obtain ⟨c₂, hget, hview⟩ := Cluster.getWithin_hit (n := n) (e := ⟨o.self, p.group, key⟩)
    ((congrFun hpool o.self).trans (hc.pool o ho)) hmember oholds.name_eq hk hov
  refine ⟨c₂, hget, hview.trans ?_⟩
  rw [← hcalls]
  rfl

/-- A lookup for which the owner has to load on behalf of another node. -/
theorem Steady.visited_of_remote_own (h : p.Healthy) (hc : p.Steady made c) (hs : s ∈ p.sites)
    (ho : o ∈ p.sites) (hne : s.self ≠ o.self) (hm : (c.view p.group).member? s.self = some m)
    (holds : p.Holds made s m.group) (hom : (c.view p.group).member? o.self = some om)
    (oholds : p.Holds made o om.group) (haround : om.around = .ofLoader (loaders o.self))
    (hk : key ≠ "") (howner : p.owner? key = some o.self)
    (hv : m.group.store.find? key = none) (hov : om.group.store.find? key = none)
    (hgives : (loaders o.self key).Gives o.limit value) (hsize : value.bytes.length < 2 ^ 64) :
    ∃ c', c.get ⟨s.self, p.group, key⟩ = (c', some (.ok value)) ∧
      p.Visited ⟨s.self, p.group, key⟩ loaders o.self value c c' := by
  have hpick : (p.pool o).pick? key = none := by
    rw [h.pick?_pool ho howner, if_pos rfl]
  have hlimit : om.group.limit = o.limit := congrArg (fun x => x.2.1) oholds.setup
  have hanswer : (om.around.ask .loader key).Gives om.group.limit value := by
    rw [haround, hlimit]
    exact hgives
  have ht : (om.group.record .serverRequests).Touched key value
      ((om.group.record .serverRequests).loadedFrom key .loader value) := .loadedFrom hk hov
  refine hc.visited_of_remote h hs ho hne hm holds hom oholds.name_eq hk howner hv hsize ht.of_record
    (c.calls ++ [(o.self, ⟨p.group, .loader, key⟩)]) ?_
    fun c' hcalls hafter => .loaded hcalls hgives hsize hom hafter hov (Group.store_loadedFrom hk)
  intro c₁ n hpool hmember hstack hcalls
  have hunder : (⟨o.self, p.group, key⟩ : Errand) ∉ c₁.underway := by
    rw [hstack, List.mem_singleton]
    exact fun he => hne (congrArg Errand.addr he).symm
  obtain ⟨c₂, hget, hview⟩ := Cluster.getWithin_own (n := n) (e := ⟨o.self, p.group, key⟩)
    ((congrFun hpool o.self).trans (hc.pool o ho)) hmember oholds.name_eq hk hov hpick
    hunder hanswer
  refine ⟨c₂, hget, ?_⟩
  rw [← hcalls]
  exact hview

/-! ## Visits -/

theorem member?_withLoaders (loaders : String → Loader)
    (h : (c.view p.group).member? a = some m) :
    ((c.withLoaders loaders).view p.group).member? a =
      some { m with around := .ofLoader (loaders a) } := by
  have hm : c.member? a p.group = some m := h
  rw [Cluster.view_withLoaders]
  show (c.member? a p.group).map _ = _
  rw [hm]
  rfl

/-- Loaders that answer differently change nothing by themselves. -/
theorem Steady.withLoaders (hc : p.Steady made c) (loaders : String → Loader) :
    p.Steady made (c.withLoaders loaders) where
  pool s hs := by
    rw [Cluster.view_withLoaders]
    exact hc.pool s hs
  group s hs := by
    obtain ⟨m, hm, holds⟩ := hc.group s hs
    exact ⟨_, member?_withLoaders loaders hm, holds⟩
  route := hc.route
  carries := hc.carries
  underway := hc.underway

/-- The loaders that a visit finds are as good as any. -/
theorem Visited.of_withLoaders (hc : p.Steady made c)
    (h : p.Visited e loaders a value (c.withLoaders loaders) c') (ha : a ∈ p.addrs) :
    p.Visited e loaders a value c c' where
  pool? := by
    rw [h.pool?, Cluster.view_withLoaders]
  route := h.route
  carries := h.carries
  underway := h.underway
  wire := h.wire
  touched s hs m hm :=
    h.touched s hs { m with around := .ofLoader (loaders s.self) } (member?_withLoaders loaders hm)
  source := by
    cases h.source with
    | @found s m calls hs hm hv =>
      obtain ⟨m₀, hm₀, -⟩ := hc.group s hs
      obtain rfl := Option.some.inj ((member?_withLoaders loaders hm₀).symm.trans hm)
      exact .found calls hs hm₀ hv
    | loaded calls gives size before after absent store =>
      obtain ⟨s, hs, rfl⟩ := List.mem_map.mp ha
      obtain ⟨m₀, hm₀, -⟩ := hc.group s hs
      obtain rfl := Option.some.inj ((member?_withLoaders loaders hm₀).symm.trans before)
      exact .loaded calls gives size hm₀ after absent store

/-- **What comes of a visit**: an answer, by way of the owner of the key. -/
theorem Steady.visited (h : p.Healthy) (hc : p.Steady made c) (hv : p.Orderly v)
    (small : ∀ key value, made key value → value.bytes.length < 2 ^ 64) :
    ∃ a value, p.owner? v.errand.key = some a ∧ (c.visit v).2 = some (.ok value) ∧
      p.Visited v.errand v.loaders a value c (c.visit v).1 := by
  obtain ⟨loaders, addr, group, key⟩ := v
  obtain ⟨haddr, rfl, hk, hloaders⟩ := hv
  obtain ⟨s, hs, rfl⟩ := List.mem_map.mp haddr
  obtain ⟨o, ho, howner⟩ := h.exists_owner hs key
  have hmem : o.self ∈ p.addrs := List.mem_map_of_mem ho
  -- It is enough to look at the cluster with the loaders of the visit.
  have enough : (∃ value c', (c.withLoaders loaders).get ⟨s.self, p.group, key⟩ =
      (c', some (.ok value)) ∧
        p.Visited ⟨s.self, p.group, key⟩ loaders o.self value (c.withLoaders loaders) c') →
      ∃ a value, p.owner? key = some a ∧
        (c.visit ⟨loaders, s.self, p.group, key⟩).2 = some (.ok value) ∧
        p.Visited ⟨s.self, p.group, key⟩ loaders a value c
          (c.visit ⟨loaders, s.self, p.group, key⟩).1 := by
    rintro ⟨value, c', hget, visited⟩
    refine ⟨o.self, value, howner, ?_, ?_⟩
    · rw [Cluster.visit, hget]
    · rw [Cluster.visit, hget]
      exact visited.of_withLoaders hc hmem
  apply enough
  have hc' := hc.withLoaders loaders
  obtain ⟨m₀, hm₀, holds⟩ := hc.group s hs
  have hm := member?_withLoaders loaders hm₀
  obtain ⟨om₀, hom₀, oholds⟩ := hc.group o ho
  have hom := member?_withLoaders loaders hom₀
  obtain ⟨value, hgives, hsize⟩ := hloaders o ho key
  cases hv : m₀.group.store.find? key with
  | some x => exact ⟨x, hc'.visited_of_hit hs hm holds hk hv⟩
  | none =>
    by_cases hself : s.self = o.self
    · -- Nodes with one address are one node.
      obtain rfl := List.inj_on_of_nodup_map h.distinct hs ho hself
      exact ⟨value, hc'.visited_of_own h hs hm holds rfl hk howner hv hgives hsize⟩
    · cases hov : om₀.group.store.find? key with
      | some x =>
        exact ⟨x, hc'.visited_of_remote_hit h hs ho hself hm holds hom oholds hk howner hv hov
          (small key x (oholds.made key x hov))⟩
      | none =>
        exact ⟨value, hc'.visited_of_remote_own h hs ho hself hm holds hom oholds rfl hk howner hv
          hov hgives hsize⟩

/-- The next state is one between visits. -/
theorem Visited.steady (hc : p.Steady made c) (h : p.Visited e loaders a value c c')
    {made' : String → Value → Prop} (hold : ∀ key x, made key x → made' key x)
    (hnew : made' e.key value) : p.Steady made' c' where
  pool s hs := by
    rw [h.pool?]
    exact hc.pool s hs
  group s hs := by
    obtain ⟨m, hm, holds⟩ := hc.group s hs
    obtain ⟨m', hm', touched⟩ := h.touched s hs m hm
    refine ⟨m', hm', ⟨touched.setup_eq.trans holds.setup, touched.sound holds.sound, ?_⟩⟩
    intro key x hx
    rcases touched.find?_cases holds.sound hx with hx | ⟨rfl, rfl⟩
    · exact hold key x (holds.made key x hx)
    · exact hnew
  route := h.route.trans hc.route
  carries d := by
    rw [h.carries]
    exact hc.carries d
  underway := h.underway.trans hc.underway

end Plan

end ReadThrough
