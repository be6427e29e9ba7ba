import ReadThrough.Proofs.Cluster.View
import ReadThrough.Proofs.Group.Lookup
import ReadThrough.Proofs.Peer.Pool
import ReadThrough.Proofs.Peer.Server

/-!
# Lookups at a node

A lookup at a node ends in one of three ways if every source answers in time with a value: the store
has one, or the node calls its loader, or it asks the owner of the key. Each is described by what it
makes of the view of the cluster, and the last by what the lookup at the owner makes of it.

## Main definitions

* `Cluster.begun c e g`, `Cluster.ended c e g`: the cluster while a source is asked, and afterwards
* `Cluster.called c e`, `Cluster.sent c url`: one call more, and one request more

## Main results

* `Cluster.getWithin_hit`, `Cluster.getWithin_own`, `Cluster.getWithin_remote`: the three ways
* `Cluster.request_plain`: a request to a node is a lookup there
-/

namespace ReadThrough.Cluster

variable {c : Cluster} {e : Errand} {m : Member} {pool : Pool} {value : Value} {n : Nat}
  {g : Group} {side : Side}

/-! ## Beginning and end -/

/-- The cluster while a lookup is made that has looked into the store in vain. -/
def begun (c : Cluster) (e : Errand) (g : Group) : Cluster :=
  { c.setGroup e.addr g with underway := e :: c.underway }

/-- The cluster when a lookup is over. -/
def ended (c : Cluster) (e : Errand) (g : Group) : Cluster :=
  { c.setGroup e.addr g with underway := (c.setGroup e.addr g).underway.erase e }

theorem view_begun (hg : g.name = e.group) : (c.begun e g).view e.group =
    { (c.view e.group).put e.addr g with underway := e :: c.underway } := by
  rw [← view_setGroup hg]
  rfl

theorem view_ended (hg : g.name = e.group) : (c.ended e g).view e.group =
    { (c.view e.group).put e.addr g with underway := c.underway.erase e } := by
  show { (c.setGroup e.addr g).view e.group with
    underway := ((c.setGroup e.addr g).view e.group).underway.erase e } = _
  rw [view_setGroup hg]
  rfl

/-- A node answers from its store what it has. -/
theorem getWithin_hit (hpool : (c.view e.group).pool? e.addr = some pool)
    (hm : (c.view e.group).member? e.addr = some m) (hname : m.group.name = e.group)
    (hk : e.key ≠ "") (hv : m.group.store.find? e.key = some value) :
    ∃ c', c.getWithin (n + 1) e = (c', some (.ok value)) ∧
      c'.view e.group = (c.view e.group).put e.addr (m.group.look e.key).1 := by
  obtain ⟨registry, hnode⟩ := exists_node?_of_view hpool
  have hm' : c.member? e.addr e.group = some m := hm
  refine ⟨c.setGroup e.addr (m.group.look e.key).1, ?_, ?_⟩
  · rw [getWithin]
    simp only [hnode, hm']
    rw [Group.look_eq hk, hv]
    rfl
  · apply view_setGroup
    rw [Group.name_of_setup Group.setup_look, hname]

/-- A lookup that finds nothing asks a source, and nobody looks the key up meanwhile. -/
theorem getWithin_of_absent (hpool : (c.view e.group).pool? e.addr = some pool)
    (hm : (c.view e.group).member? e.addr = some m) (hk : e.key ≠ "")
    (hv : m.group.store.find? e.key = none) (hunder : e ∉ c.underway)
    (hg : ((m.group.look e.key).1.lookAgain e.key).1 = g)
    (hside : m.group.firstSide ((pool.pick? e.key).map (·.baseUrl)) = side) :
    c.getWithin (n + 1) e =
      let (c', outcome) := (c.begun e g).finish (getWithin n) e 2 (.asks side 0)
      ({ c' with underway := c'.underway.erase e }, outcome) := by
  obtain ⟨registry, hnode⟩ := exists_node?_of_view hpool
  have hm' : c.member? e.addr e.group = some m := hm
  have hlead : (m.group.look e.key).1.lead ((pool.pick? e.key).map (·.baseUrl)) e.key =
      (g, .asks side 0) := by
    have habsent : (m.group.look e.key).1.store.find? e.key = none := by
      rw [Group.look_store hk]
      exact Store.find?_get_of_none hv
    rw [Group.lead_of_absent habsent, hg, ← hside, Group.firstSide_of_setup Group.setup_look]
  rw [getWithin]
  simp only [hnode, hm']
  rw [Group.look_eq hk, hv, Option.map_none]
  show (if _ then _ else _) = _
  rw [if_neg hunder, hlead]
  rfl

/-! ## A node's own keys -/

/-- The cluster with one call to a loader more. -/
def called (c : Cluster) (e : Errand) : Cluster :=
  { c with calls := c.calls ++ [(e.addr, ⟨e.group, .loader, e.key⟩)] }

theorem view_called (name : String) : (c.called e).view name = { c.view name with
    calls := (c.view name).calls ++ [(e.addr, ⟨e.group, .loader, e.key⟩)] } := rfl

/-- The end of a lookup whose loader answers in time. -/
theorem finish_loader (get : Cluster → Errand → Cluster × Option Outcome)
    (hpool : (c.view e.group).pool? e.addr = some pool)
    (hm : (c.view e.group).member? e.addr = some m)
    (hgives : (m.around.ask .loader e.key).Gives m.group.limit value) :
    c.finish get e (n + 1) (.asks .loader 0) =
      ((c.called e).setGroup e.addr (m.group.receive e.key .loader (.ok value)).1,
        some (.ok value)) := by
  obtain ⟨registry, hnode⟩ := exists_node?_of_view hpool
  have hm' : c.member? e.addr e.group = some m := hm
  have hm'' : (c.called e).member? e.addr e.group = some m := hm
  have hask : c.ask get ⟨pool, registry⟩ m e .loader =
      (c.called e, m.around.ask .loader e.key) := rfl
  rw [finish]
  simp only [hnode, hm', hask, hm'']
  rw [Group.resume_of_gives hgives]
  dsimp only
  cases n <;> rw [finish]

/-- A node whose own key is not in its store calls its loader. -/
theorem getWithin_own (hpool : (c.view e.group).pool? e.addr = some pool)
    (hm : (c.view e.group).member? e.addr = some m) (hname : m.group.name = e.group)
    (hk : e.key ≠ "") (hv : m.group.store.find? e.key = none)
    (hpick : pool.pick? e.key = none) (hunder : e ∉ c.underway)
    (hgives : (m.around.ask .loader e.key).Gives m.group.limit value) :
    ∃ c', c.getWithin (n + 1) e = (c', some (.ok value)) ∧
      c'.view e.group =
        { (c.view e.group).put e.addr (m.group.loadedFrom e.key .loader value) with
          calls := c.calls ++ [(e.addr, ⟨e.group, .loader, e.key⟩)] } := by
  have hside : m.group.firstSide ((pool.pick? e.key).map (·.baseUrl)) = .loader := by
    rw [hpick, Option.map_none, Group.firstSide_none]
  generalize hg : ((m.group.look e.key).1.lookAgain e.key).1 = g
  have hsetup : g.setup = m.group.setup := by
    rw [← hg, Group.setup_lookAgain, Group.setup_look]
  have hgname : g.name = e.group := (Group.name_of_setup hsetup).trans hname
  have hlimit : g.limit = m.group.limit := Group.limit_of_setup hsetup
  have hview := view_begun (c := c) hgname
  have hmember : ((c.begun e g).view e.group).member? e.addr = some { m with group := g } := by
    rw [hview]
    exact View.member?_put_self hm
  have hfinish := finish_loader (getWithin n) (n := 1) (by rw [hview]; exact hpool) hmember
    (by rw [hlimit]; exact hgives)
  rw [getWithin_of_absent hpool hm hk hv hunder hg hside, hfinish]
  refine ⟨((c.begun e g).called e).ended e (g.receive e.key .loader (.ok value)).1, rfl, ?_⟩
  rw [view_ended ((Group.name_of_setup Group.setup_receive).trans hgname), view_called, hview]
  show ({ ((c.view e.group).put e.addr g).put e.addr (g.receive e.key .loader (.ok value)).1 with
    calls := c.calls ++ [(e.addr, ⟨e.group, .loader, e.key⟩)]
    underway := (e :: c.underway).erase e } : View) = _
  rw [View.put_put, List.erase_cons_head, ← hg]
  rfl

/-! ## Keys of other nodes -/

/-- The cluster with one request carried more. -/
def sent (c : Cluster) (url : String) : Cluster := { c with wire := c.wire ++ [url] }

/-- **A request to a node is a lookup there**, for which its group counts a request. -/
theorem request_plain {get : Cluster → Errand → Cluster × Option Outcome} {base o url : String}
    {c' : Cluster} (hroute : c.route = Route.plain) (hcarries : ∀ d, c.carries d = true)
    (ho : normalizeAddress o = o) (hb : Pool.isBasePath base) (hgroup : e.group ≠ "")
    (hpool : (c.view e.group).pool? o = some pool) (hbase : pool.options.basePath = base)
    (hm : (c.view e.group).member? o = some m) (hsize : value.bytes.length < 2 ^ 64)
    (hurl : (Client.create o base).url e.group e.key = url)
    (hget : get ((c.sent url).setGroup o (m.group.record .serverRequests)) ⟨o, e.group, e.key⟩ =
      (c', some (.ok value))) :
    c.request get (Client.create o base) e.group e.key = (c', .ok value, false) := by
  obtain ⟨registry, hnode⟩ := exists_node?_of_view hpool
  have hm' : (c.sent url).member? o e.group = some m := hm
  -- The server at the owner's address finds the group and looks the key up in it.
  have hserve : PeerServer.handle (directory get o) base (c.sent url)
      ⟨"GET", ⟨(Client.create o base).path e.group e.key, ""⟩⟩ =
        (c', some (.ofBytes (Envelope.encode value.bytes))) := by
    have hhas : (directory get o).has (c.sent url) e.group = true := by
      show ((c.sent url).member? o e.group).isSome = true
      rw [hm']
      rfl
    have hcount : (directory get o).countRequest (c.sent url) e.group =
        (c.sent url).setGroup o (m.group.record .serverRequests) := by
      simp only [directory, hm']
    have hlookup : (directory get o).get ((directory get o).countRequest (c.sent url) e.group)
        e.group e.key = (c', some (.ok value)) := by
      rw [hcount]
      exact hget
    show PeerServer.handle _ base _ ⟨"GET", ⟨PeerPath.render base e.group e.key, ""⟩⟩ = _
    rw [PeerServer.handle_render hb hgroup hhas, hlookup]
    rfl
  have hsend : c.send get
      ⟨url, (Client.create o base).path e.group e.key, "", fun addr => addr == o⟩ =
        (c', .answered 200 (Envelope.encode value.bytes), false) := by
    unfold send
    rw [if_pos (hcarries _)]
    have hfind : (c.nodes.find? fun node => node.pool.self == o) = some ⟨pool, registry⟩ := hnode
    dsimp only
    rw [hfind]
    dsimp only
    rw [self_of_node? hnode, hbase]
    rw [sent] at hserve
    rw [hserve]
    rfl
  have haddr : (Client.create o base).baseUrl = o := ho
  unfold request
  rw [hroute]
  unfold Route.plain
  dsimp only
  rw [hurl, haddr, hsend]
  dsimp only
  rw [Client.accept_respond hsize]

/-- The end of a lookup whose peer answers. -/
theorem finish_peer {get : Cluster → Errand → Cluster × Option Outcome} {o : String}
    {c' : Cluster} {m' : Member} (hpool : (c.view e.group).pool? e.addr = some pool)
    (hm : (c.view e.group).member? e.addr = some m)
    (hrequest : c.request get (Client.create o pool.options.basePath) e.group e.key =
      (c', .ok value, false))
    (hm' : (c'.view e.group).member? e.addr = some m') :
    c.finish get e (n + 1) (.asks (.peer o) 0) =
      (c'.setGroup e.addr (m'.group.receive e.key (.peer o) (.ok value)).1, some (.ok value)) := by
  obtain ⟨registry, hnode⟩ := exists_node?_of_view hpool
  have hmember : c.member? e.addr e.group = some m := hm
  have hmember' : c'.member? e.addr e.group = some m' := hm'
  have hgives : Reply.Gives m'.group.limit value (.now (.ok value)) := rfl
  rw [finish]
  simp only [hnode, hmember, ask, hrequest, hmember']
  rw [Group.resume_of_gives hgives]
  dsimp only
  cases n <;> rw [finish]

/-- A node whose store has nothing for a key of another node asks that node. -/
theorem getWithin_remote {o url : String} {opool : Pool} {om : Member} {og : Group}
    {calls : List (String × SourceCall)}
    (hpool : (c.view e.group).pool? e.addr = some pool)
    (hm : (c.view e.group).member? e.addr = some m) (hname : m.group.name = e.group)
    (hk : e.key ≠ "") (hv : m.group.store.find? e.key = none)
    (hunder : e ∉ c.underway) (hpeers : m.group.hasPeers = true)
    (hpick : pool.pick? e.key = some (Client.create o pool.options.basePath))
    (hroute : c.route = Route.plain) (hcarries : ∀ d, c.carries d = true)
    (ho : normalizeAddress o = o) (hne : e.addr ≠ o)
    (hb : Pool.isBasePath pool.options.basePath) (hgroup : e.group ≠ "")
    (hopool : (c.view e.group).pool? o = some opool)
    (hbase : opool.options.basePath = pool.options.basePath)
    (hom : (c.view e.group).member? o = some om) (honame : om.group.name = e.group)
    (hsize : value.bytes.length < 2 ^ 64)
    (hurl : (Client.create o pool.options.basePath).url e.group e.key = url)
    (hserve : ∀ c₁ : Cluster, (c₁.view e.group).pool? = (c.view e.group).pool? →
      (c₁.view e.group).member? o = some { om with group := om.group.record .serverRequests } →
      c₁.underway = e :: c.underway → c₁.calls = c.calls →
      ∃ c₂, c₁.getWithin n ⟨o, e.group, e.key⟩ = (c₂, some (.ok value)) ∧
        c₂.view e.group = { (c₁.view e.group).put o og with calls }) :
    ∃ c', c.getWithin (n + 1) e = (c', some (.ok value)) ∧
      c'.view e.group =
        { ((c.view e.group).put o og).put e.addr (m.group.loadedFrom e.key (.peer o) value) with
          wire := c.wire ++ [url]
          calls } := by
  have hside : m.group.firstSide ((pool.pick? e.key).map (·.baseUrl)) = .peer o := by
    have haddr : (Client.create o pool.options.basePath).baseUrl = o := ho
    rw [hpick, Option.map_some, haddr, Group.firstSide_some hpeers]
  generalize hg : ((m.group.look e.key).1.lookAgain e.key).1 = g
  have hsetup : g.setup = m.group.setup := by
    rw [← hg, Group.setup_lookAgain, Group.setup_look]
  have hgname : g.name = e.group := (Group.name_of_setup hsetup).trans hname
  have hview := view_begun (c := c) hgname
  have hbegun : ((c.begun e g).view e.group).member? o = some om := by
    rw [hview]
    exact (View.member?_put_of_ne hne.symm).trans hom
  -- The owner is asked while the lookup is being made, and the lookup comes back to the same group.
  generalize hc₁ : ((c.begun e g).sent url).setGroup o (om.group.record .serverRequests) = c₁
  have hview₁ : c₁.view e.group =
      { ((c.view e.group).put e.addr g).put o (om.group.record .serverRequests) with
        underway := e :: c.underway
        wire := c.wire ++ [url] } := by
    rw [← hc₁, view_setGroup (g := om.group.record .serverRequests) honame]
    show View.put { (c.begun e g).view e.group with
      wire := ((c.begun e g).view e.group).wire ++ [url] } o _ = _
    rw [hview]
    rfl
  obtain ⟨c₂, hget, hview₂⟩ := hserve c₁ (by rw [hview₁]; rfl)
    (by
      rw [hview₁]
      exact View.member?_put_self ((View.member?_put_of_ne hne.symm).trans hom))
    (congrArg View.underway hview₁) (congrArg View.calls hview₁)
  -- What the request brings back is what the lookup at the owner found.
  have hrequest : (c.begun e g).request (getWithin n) (Client.create o pool.options.basePath)
      e.group e.key = (c₂, .ok value, false) := by
    refine request_plain ?_ ?_ ho hb hgroup ?_ hbase hbegun hsize hurl ?_
    · exact (congrArg View.route hview).trans hroute
    · intro d
      have hcarry := congrArg View.carries hview
      exact (congrFun hcarry d).trans (hcarries d)
    · rw [hview]
      exact hopool
    · rw [hc₁]
      exact hget
  have hmember : ((c.begun e g).view e.group).member? e.addr = some { m with group := g } := by
    rw [hview]
    exact View.member?_put_self hm
  have hback : (c₂.view e.group).member? e.addr = some { m with group := g } := by
    rw [hview₂, hview₁]
    have hthere : (((c.view e.group).put e.addr g).put o
        (om.group.record .serverRequests)).member? e.addr = some { m with group := g } :=
      (View.member?_put_of_ne hne).trans (View.member?_put_self hm)
    exact (View.member?_put_of_ne hne).trans hthere
  have hfinish := finish_peer (n := 1) (by rw [hview]; exact hpool) hmember hrequest hback
  rw [getWithin_of_absent hpool hm hk hv hunder hg hside, hfinish]
  refine ⟨c₂.ended e (g.receive e.key (.peer o) (.ok value)).1, rfl, ?_⟩
  have hunder₂ : c₂.underway = e :: c.underway := by
    have h := congrArg View.underway hview₂
    rw [hview₁] at h
    exact h
  rw [view_ended ((Group.name_of_setup Group.setup_receive).trans hgname), hview₂, hview₁, hunder₂]
  show ({ ((((c.view e.group).put e.addr g).put o (om.group.record .serverRequests)).put o og).put
      e.addr (g.receive e.key (.peer o) (.ok value)).1 with
    underway := (e :: c.underway).erase e
    wire := c.wire ++ [url]
    calls } : View) = _
  -- The two nodes are different, so what one does to its group commutes with what the other does.
  rw [View.put_put, View.put_comm hne, View.put_put, List.erase_cons_head, ← hg]
  rfl

end ReadThrough.Cluster
