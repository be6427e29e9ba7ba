import ReadThrough.Proofs.Cluster.Visit
import ReadThrough.Proofs.Run

/-!
# Routing in a healthy cluster

Lookups are made one after the other, each at any of the nodes. A lookup costs one request at most,
because whoever is asked for a key owns it and asks nobody else. So the only loader ever called for
a key is its owner's, every answer is one that this loader has given, and the loader is called for
the key again only after the owner's store has lost the value.

## Main definitions

* `Moment.Calls`, `Moment.Makes`, `Moment.Evicts`: what happens at a node during a lookup
* `Plan.Made p ms key value`: the value is one that the owner's loader has made
* `Plan.Keeps p a key c`: the store of a node has a value
* `Plan.Routed p ms t`: how lookups go in a healthy cluster

## Main results

* `Plan.Healthy.steady_of_run`: the cluster is steady between any two lookups
* `Plan.Healthy.visited_at`: what comes of each lookup of a run
* `Plan.Healthy.evicted_between`: between two calls for a key it is evicted
* `Plan.owner_routing`: a healthy cluster routes lookups to owners
-/

namespace ReadThrough

/-- The cluster after a visit. None is refused. -/
def Cluster.visit? (c : Cluster) (v : Visit) : Option Cluster := some (c.visit v).1

/-! ## Moments -/

namespace Moment

/-- The answer to the lookup. -/
def answer? (m : Moment Cluster Visit) : Option Outcome := (m.before.visit m.event).2

/-- There is one call to a loader, that of the node at `a` for a key. -/
def Calls (m : Moment Cluster Visit) (a group key : String) : Prop :=
  m.after.calls = m.before.calls ++ [(a, ⟨group, .loader, key⟩)]

/-- The loader that is called answers with a value. -/
def Makes (m : Moment Cluster Visit) (a group key : String) (value : Value) : Prop :=
  m.Calls a group key ∧ (m.event.loaders a key).Gives none value

/-- The value looked up is put into the store of the node at `a`, and this evicts a key. -/
def Evicts (m : Moment Cluster Visit) (a group key : String) : Prop :=
  ∃ x y value, m.before.member? a group = some x ∧ m.after.member? a group = some y ∧
    y.group.store =
      ((x.group.store.missed m.event.errand.key).add m.event.errand.key value).1 ∧
    key ∈ ((x.group.store.missed m.event.errand.key).add m.event.errand.key value).2.map (·.key)

end Moment

namespace Plan

variable {p : Plan} {ms pre mid post : List (Moment Cluster Visit)} {m m' : Moment Cluster Visit}
  {c c' t : Cluster} {s : Site} {a b key : String} {value : Value} {made : String → Value → Prop}

/-- The owner of the key has made the value, which fits into an envelope. -/
def Made (p : Plan) (ms : List (Moment Cluster Visit)) (key : String) (value : Value) : Prop :=
  value.bytes.length < 2 ^ 64 ∧
    ∃ a, p.owner? key = some a ∧ ∃ m ∈ ms, m.Makes a p.group key value

/-- How lookups go in a healthy cluster. -/
structure Routed (p : Plan) (ms : List (Moment Cluster Visit)) (t : Cluster) : Prop where
  /-- All nodes agree who owns a key. -/
  agreed : ∀ s ∈ p.sites, ∃ node, t.node? s.self = some node ∧
    ∀ key, node.pool.ring.owner? key = p.owner? key
  /-- A lookup sends one request at most. -/
  wire : ∀ m ∈ ms, m.after.wire = m.before.wire ∨ ∃ url, m.after.wire = m.before.wire ++ [url]
  /-- A lookup makes one call at most, to the loader of the owner of its key. -/
  called : ∀ m ∈ ms, m.after.calls = m.before.calls ∨
    ∃ a, p.owner? m.event.errand.key = some a ∧ m.Calls a p.group m.event.errand.key
  /-- The only loader ever called for a key is that of its owner. -/
  caller : ∀ a call, (a, call) ∈ t.calls → call.group = p.group ∧ call.side = .loader ∧
    p.owner? call.key = some a
  /-- A lookup is answered with a value that the loader of the owner has made. -/
  answered : ∀ pre m post, ms = pre ++ m :: post →
    ∃ a value, p.owner? m.event.errand.key = some a ∧ m.answer? = some (.ok value) ∧
      ∃ x ∈ pre ++ [m], x.Makes a p.group m.event.errand.key value
  /-- Between two calls for a key the store of the owner evicts it. -/
  again : ∀ pre m mid m' post a key, ms = pre ++ m :: mid ++ m' :: post →
    m.Calls a p.group key → m'.Calls a p.group key → ∃ x ∈ m :: mid, x.Evicts a p.group key

/-! ## The start -/

/-- As it is started, a healthy cluster is steady. -/
theorem Healthy.steady_start (h : p.Healthy) :
    ∃ c, p.start = .ok c ∧ c.calls = [] ∧ p.Steady (p.Made []) c := by
  refine ⟨_, h.start_eq, rfl, ?_, ?_, rfl, fun _ => rfl, rfl⟩
  · intro s hs
    exact congrArg (Option.map (·.pool)) (h.find?_firstNode hs)
  · intro s hs
    have hm : (p.firstNode s).registry.find? p.group =
        some ⟨p.firstGroup s, .ofLoader fun _ => .never⟩ :=
      List.find?_cons_of_pos (BEq.rfl (a := p.group))
    have hnone : ∀ key, (p.firstGroup s).store.find? key = none :=
      fun _ => Store.Sound.find?_empty s.bytes
    refine ⟨⟨p.firstGroup s, .ofLoader fun _ => .never⟩, ?_, rfl, .empty s.bytes, ?_⟩
    · show ((p.sites.map p.firstNode).find? _).bind _ = _
      rw [h.find?_firstNode hs]
      exact hm
    · intro key value hv
      rw [hnone] at hv
      cases hv

/-! ## What was made -/

theorem Made.append (hm : p.Made ms key value) (ms' : List (Moment Cluster Visit)) :
    p.Made (ms ++ ms') key value := by
  obtain ⟨hsize, a, ha, m, hmem, hmakes⟩ := hm
  exact ⟨hsize, a, ha, m, List.mem_append_left _ hmem, hmakes⟩

/-- A lookup finds a value that was made before, or has it made. -/
theorem Visited.made_value (hc : p.Steady (p.Made ms) m.before)
    (h : p.Visited m.event.errand m.event.loaders a value m.before m.after)
    (ha : p.owner? m.event.errand.key = some a) :
    p.Made (ms ++ [m]) m.event.errand.key value := by
  cases h.source with
  | found _ hs hx hv =>
    obtain ⟨y, hy, holds⟩ := hc.group _ hs
    obtain rfl := Option.some.inj (hx.symm.trans hy)
    exact (holds.made _ _ hv).append [m]
  | loaded calls gives size =>
    exact ⟨size, a, ha, m, List.mem_concat_self, calls, gives.of_limit⟩

/-! ## Until a value is evicted -/

/-- The store of the node at `a` has a value for the key. -/
def Keeps (p : Plan) (a key : String) (c : Cluster) : Prop :=
  ∃ x, c.member? a p.group = some x ∧ (x.group.store.find? key).isSome

/-- Who calls a loader owns the key; its store had nothing for it, and gets the value. -/
theorem Visited.of_calls
    (h : p.Visited m.event.errand m.event.loaders b value m.before m.after)
    (hcalls : m.Calls a p.group key) : b = a ∧ m.event.errand.key = key ∧
      ∃ x y, m.before.member? a p.group = some x ∧ m.after.member? a p.group = some y ∧
        x.group.store.find? key = none ∧
        y.group.store = ((x.group.store.missed key).add key value).1 := by
  cases h.source with
  | found calls =>
    have hnil : m.before.calls ++ [(a, ⟨p.group, .loader, key⟩)] = m.before.calls :=
      hcalls.symm.trans calls
    exact absurd (List.append_right_eq_self.mp hnil) (List.cons_ne_nil _ _)
  | loaded calls _ _ before after absent store =>
    have hcall := List.append_cancel_left (calls.symm.trans hcalls)
    obtain ⟨rfl, rfl⟩ : b = a ∧ m.event.errand.key = key := by simpa using hcall
    exact ⟨rfl, rfl, _, _, before, after, absent, store⟩

/-- A loader is called only if its node has nothing for the key. -/
theorem Visited.not_keeps_of_calls
    (h : p.Visited m.event.errand m.event.loaders b value m.before m.after)
    (hcalls : m.Calls a p.group key) : ¬ p.Keeps a key m.before := by
  rintro ⟨z, hz, hin⟩
  obtain ⟨-, -, x, y, hx, -, hnone, -⟩ := h.of_calls hcalls
  obtain rfl := Option.some.inj (hx.symm.trans hz)
  rw [hnone] at hin
  cases hin

/-- After a call the store has the value, unless it is evicted at once. -/
theorem Visited.kept_of_calls (hc : p.Steady made m.before) (hs : s ∈ p.sites)
    (h : p.Visited m.event.errand m.event.loaders b value m.before m.after)
    (hcalls : m.Calls s.self p.group key) :
    p.Keeps s.self key m.after ∨ m.Evicts s.self p.group key := by
  obtain ⟨-, rfl, x, y, hx, hy, -, hstore⟩ := h.of_calls hcalls
  obtain ⟨z, hz, holds⟩ := hc.group s hs
  obtain rfl := Option.some.inj (hx.symm.trans hz)
  rcases holds.sound.missed.evicted_or_isSome_add (.inl rfl) with hout | hin
  · exact .inr ⟨x, y, value, hx, hy, hstore, hout⟩
  · refine .inl ⟨y, hy, ?_⟩
    rw [hstore]
    exact hin

/-- A value stays in a store until it is evicted. -/
theorem Visited.keeps (hc : p.Steady made m.before) (hs : s ∈ p.sites)
    (h : p.Visited m.event.errand m.event.loaders b value m.before m.after)
    (hk : p.Keeps s.self key m.before) :
    p.Keeps s.self key m.after ∨ m.Evicts s.self p.group key := by
  obtain ⟨x, hx, hin⟩ := hk
  obtain ⟨y, hy, touched⟩ := h.touched s hs x hx
  obtain ⟨z, hz, holds⟩ := hc.group s hs
  obtain rfl := Option.some.inj (hx.symm.trans hz)
  rcases touched.evicted_or_isSome holds.sound hin with hin | ⟨hstore, hout⟩
  · exact .inl ⟨y, hy, hin⟩
  · exact .inr ⟨x, y, value, hx, hy, hstore, hout⟩

/-! ## Whole runs -/

section Runs

variable (h : p.Healthy) (hc : p.Steady (p.Made []) c)

include h hc

/-- **Between any two lookups the cluster is steady**, and its stores have nothing but what loaders
of owners have made. -/
theorem Healthy.steady_of_run (run : Run Cluster.visit? c ms t)
    (orderly : ∀ m ∈ ms, p.Orderly m.event) : p.Steady (p.Made ms) t := by
  -- The lookup that comes last finds a steady cluster, and adds to what was made.
  induction run with
  | nil => exact hc
  | @snoc ms t u v _ he ih =>
    have ht := ih fun m hm => orderly m (List.mem_append_left _ hm)
    have hv : p.Orderly v := orderly ⟨t, v, u⟩ List.mem_concat_self
    obtain rfl : (t.visit v).1 = u := Option.some.inj he
    obtain ⟨a, value, ha, -, visited⟩ := ht.visited h hv fun _ _ hm => hm.1
    have hnew : p.Made (ms ++ [⟨t, v, (t.visit v).1⟩]) v.errand.key value :=
      Visited.made_value (m := ⟨t, v, (t.visit v).1⟩) ht visited ha
    exact visited.steady ht (fun _ _ hm => hm.append _) hnew

/-- **What comes of each lookup of a run.** -/
theorem Healthy.visited_at (run : Run Cluster.visit? c (pre ++ m :: post) t)
    (orderly : ∀ x ∈ pre ++ m :: post, p.Orderly x.event) :
    p.Steady (p.Made pre) m.before ∧ ∃ a value, p.owner? m.event.errand.key = some a ∧
      m.answer? = some (.ok value) ∧
      p.Visited m.event.errand m.event.loaders a value m.before m.after := by
  obtain ⟨hpre, he, -⟩ := run.at_moment
  have hs := h.steady_of_run hc hpre fun x hx => orderly x (List.mem_append_left _ hx)
  have hm : p.Orderly m.event := orderly m (List.mem_append_right _ List.mem_cons_self)
  obtain ⟨a, value, ha, hanswer, visited⟩ := hs.visited h hm fun _ _ hm => hm.1
  have hafter : (m.before.visit m.event).1 = m.after := Option.some.inj he
  rw [hafter] at visited
  exact ⟨hs, a, value, ha, hanswer, visited⟩

/-- The same for each lookup that is in the run somewhere. -/
theorem Healthy.visited_of_mem (run : Run Cluster.visit? c ms t)
    (orderly : ∀ x ∈ ms, p.Orderly x.event) (hm : m ∈ ms) :
    (∃ pre, p.Steady (p.Made pre) m.before) ∧ ∃ a value, p.owner? m.event.errand.key = some a ∧
      p.Visited m.event.errand m.event.loaders a value m.before m.after := by
  obtain ⟨pre, post, rfl⟩ := List.append_of_mem hm
  obtain ⟨hs, a, value, ha, -, visited⟩ := h.visited_at hc run orderly
  exact ⟨⟨pre, hs⟩, a, value, ha, visited⟩

/-- The only loader ever called for a key is that of its owner. -/
theorem Healthy.owner_of_call (hcalls : c.calls = []) (run : Run Cluster.visit? c ms t)
    (orderly : ∀ x ∈ ms, p.Orderly x.event) {call : SourceCall} (hmem : (a, call) ∈ t.calls) :
    call.group = p.group ∧ call.side = .loader ∧ p.owner? call.key = some a := by
  induction run with
  | nil =>
    rw [hcalls] at hmem
    cases hmem
  | @snoc ms t u v run he ih =>
    have hlast : (⟨t, v, u⟩ : Moment Cluster Visit) ∈ ms ++ [⟨t, v, u⟩] := List.mem_concat_self
    obtain ⟨-, b, value, hb, visited⟩ := h.visited_of_mem hc (run.snoc he) orderly hlast
    have old : (a, call) ∈ t.calls → call.group = p.group ∧ call.side = .loader ∧
        p.owner? call.key = some a := ih fun x hx => orderly x (List.mem_append_left _ hx)
    cases visited.source with
    | found calls =>
      rw [calls] at hmem
      exact old hmem
    | loaded calls =>
      rw [calls] at hmem
      rcases List.mem_append.mp hmem with hmem | hmem
      · exact old hmem
      · cases List.mem_singleton.mp hmem
        exact ⟨rfl, rfl, hb⟩

/-- **Between two calls for a key it is evicted** from the store of the node that is called. -/
theorem Healthy.evicted_between (run : Run Cluster.visit? c (pre ++ m :: mid ++ m' :: post) t)
    (orderly : ∀ x ∈ pre ++ m :: mid ++ m' :: post, p.Orderly x.event)
    (hm : m.Calls a p.group key) (hm' : m'.Calls a p.group key) :
    ∃ x ∈ m :: mid, x.Evicts a p.group key := by
  have visited {x : Moment Cluster Visit} (hx : x ∈ pre ++ m :: mid) :=
    h.visited_of_mem hc run orderly (List.mem_append_left (m' :: post) hx)
  -- The first call puts the value into the store of a node `s`.
  obtain ⟨⟨_, hs⟩, b, value, hb, hv⟩ := visited (List.mem_append_right pre List.mem_cons_self)
  obtain ⟨rfl, rfl, x, y, hx, hy, -, hstore⟩ := hv.of_calls hm
  obtain ⟨s, hsite, rfl⟩ := exists_site hb
  rcases Visited.kept_of_calls hs hsite hv hm with hkept | hout
  · -- It stays there unless it is evicted, and the second call finds it missing.
    have keep : ∀ x ∈ mid, p.Keeps s.self m.event.errand.key x.before →
        p.Keeps s.self m.event.errand.key x.after ∨
          x.Evicts s.self p.group m.event.errand.key := by
      intro x hxmid hin
      obtain ⟨⟨_, hs⟩, _, _, _, hv⟩ :=
        visited (List.mem_append_right pre (List.mem_cons_of_mem m hxmid))
      exact Visited.keeps hs hsite hv hin
    have hbetween : Run Cluster.visit? m.after mid m'.before := run.at_moment.1.at_moment.2.2
    rcases hbetween.kept_or_exists hkept keep with hin | ⟨x, hx, hout⟩
    · obtain ⟨-, _, _, _, hv'⟩ := h.visited_of_mem hc run orderly
        (List.mem_append_right (pre ++ m :: mid) List.mem_cons_self)
      exact absurd hin (hv'.not_keeps_of_calls hm')
    · exact ⟨x, List.mem_cons_of_mem m hx, hout⟩
  · exact ⟨m, List.mem_cons_self, hout⟩

end Runs

/-- **A healthy cluster routes lookups to owners.** All nodes agree who owns a key. However many
lookups are made, one after the other and at whichever nodes, each costs one request at most and is
answered with a value that the loader of the key's owner has made; no other loader is called for the
key, and this one is called again only after the owner's store has evicted the value. -/
theorem owner_routing (p : Plan) (h : p.Healthy) : ∃ c, p.start = .ok c ∧
    ∀ ms t, Run Cluster.visit? c ms t → (∀ m ∈ ms, p.Orderly m.event) → p.Routed ms t := by
  obtain ⟨c, hstart, hcalls, hc⟩ := h.steady_start
  refine ⟨c, hstart, ?_⟩
  intro ms t run orderly
  refine ⟨?_, ?_, ?_, ?_, ?_, ?_⟩
  · -- No lookup changes a pool, so what the nodes agreed on at first they still agree on.
    intro s hs
    have ht := h.steady_of_run hc run orderly
    obtain ⟨registry, hnode⟩ := Cluster.exists_node?_of_view (ht.pool s hs)
    exact ⟨_, hnode, h.owner?_pool hs⟩
  · intro m hm
    obtain ⟨-, a, value, -, visited⟩ := h.visited_of_mem hc run orderly hm
    exact visited.wire
  · intro m hm
    obtain ⟨-, a, value, ha, visited⟩ := h.visited_of_mem hc run orderly hm
    cases visited.source with
    | found calls => exact .inl calls
    | loaded calls => exact .inr ⟨a, ha, calls⟩
  · intro a call hmem
    exact h.owner_of_call hc hcalls run orderly hmem
  · rintro pre m post rfl
    obtain ⟨hs, a, value, ha, hanswer, visited⟩ := h.visited_at hc run orderly
    -- The value was made by an owner of the key, and there is only one.
    obtain ⟨-, b, hb, hmade⟩ := Visited.made_value hs visited ha
    obtain rfl := Option.some.inj (ha.symm.trans hb)
    exact ⟨a, value, ha, hanswer, hmade⟩
  · rintro pre m mid m' post a key rfl hm hm'
    exact h.evicted_between hc run orderly hm hm'

/-! ## Two nodes -/

/-- Two nodes that know each other, one by an address with slashes too many. -/
def pair : Plan := ⟨"g", "/_cache_/", 2, none,
  [⟨"http://a:8001/", ["http://a:8001", "http://b:8002"], 5000, 100, none⟩,
    ⟨"http://b:8002", ["http://b:8002", "http://a:8001", "http://a:8001//"], 5000, 8, some 50⟩]⟩

theorem pair_healthy : pair.Healthy where
  group := by decide
  basePath := by decide
  replicas := by decide
  distinct := by decide +kernel
  peers s hs a := by
    have hsame : s.peers.map normalizeAddress ⊆ pair.addrs ∧
        pair.addrs ⊆ s.peers.map normalizeAddress := by
      revert s
      decide +kernel
    exact ⟨fun ha => hsame.1 ha, fun ha => hsame.2 ha⟩
  apart := by decide +kernel

/-- A lookup at the second node while loaders take their time. -/
def pairVisit (key : String) : Visit :=
  ⟨fun _ _ => .later 40 (.ok ⟨[1, 2, 3]⟩), ⟨"http://b:8002", "g", key⟩⟩

theorem pairVisit_orderly (hk : key ≠ "") : pair.Orderly (pairVisit key) where
  addr := by
    show "http://b:8002" ∈ pair.addrs
    decide +kernel
  group := rfl
  key := hk
  loaders s hs _ := by
    refine ⟨⟨[1, 2, 3]⟩, ⟨rfl, ?_⟩, by decide⟩
    rcases List.mem_pair.mp hs with rfl | rfl
    · exact nofun
    · rintro l ⟨⟩
      decide

theorem owner_routing_pair : pair.Healthy ∧
    pair.Orderly (pairVisit "k") ∧ pair.Orderly (pairVisit "l") ∧
    ∃ c d e, pair.start = .ok c ∧
      Run Cluster.visit? c [⟨c, pairVisit "k", d⟩, ⟨d, pairVisit "l", e⟩] e ∧
      pair.Routed [⟨c, pairVisit "k", d⟩, ⟨d, pairVisit "l", e⟩] e := by
  have hk : pair.Orderly (pairVisit "k") := pairVisit_orderly (by decide)
  have hl : pair.Orderly (pairVisit "l") := pairVisit_orderly (by decide)
  obtain ⟨c, hstart, routed⟩ := owner_routing pair pair_healthy
  have run : Run Cluster.visit? c
      [⟨c, pairVisit "k", (c.visit (pairVisit "k")).1⟩,
        ⟨(c.visit (pairVisit "k")).1, pairVisit "l",
          ((c.visit (pairVisit "k")).1.visit (pairVisit "l")).1⟩] _ :=
    (Run.nil.snoc rfl).snoc rfl
  refine ⟨pair_healthy, hk, hl, c, _, _, hstart, run, routed _ _ run ?_⟩
  intro m hm
  rcases List.mem_pair.mp hm with rfl | rfl
  · exact hk
  · exact hl

end Plan

end ReadThrough
