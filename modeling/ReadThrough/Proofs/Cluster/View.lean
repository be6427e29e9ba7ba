import Mathlib.Logic.Function.Basic
import ReadThrough.Cluster
import ReadThrough.Proofs.Registry

/-!
# A cluster seen through one group

Every node has a group of the same name. Seen through it, a cluster is a pool and a group for each
address, with the lookups that are made and the record of requests and calls. Whatever happens to
one node's group changes the view at its address and nowhere else.

## Main definitions

* `Cluster.View`, `Cluster.view name c`: the cluster seen through the groups with a name
* `Cluster.View.put v a g`: the view with another state of the group at an address

## Main results

* `Cluster.view_setGroup`: setting a group changes the view at one address
-/

namespace ReadThrough

namespace Cluster

variable {c : Cluster} {node : Node} {a b name : String} {g : Group}

theorem self_of_node? (h : c.node? a = some node) : node.pool.self = a :=
  eq_of_beq (List.find?_some (p := fun n : Node => n.pool.self == a) h)

theorem node?_setNode : (c.setNode node).node? b =
    if b = node.pool.self then (c.node? b).map fun _ => node else c.node? b := by
  have hself : ((·.pool.self == b) ∘ fun n : Node =>
      if n.pool.self = node.pool.self then node else n) = (·.pool.self == b) := by
    funext n
    show ((if n.pool.self = node.pool.self then node else n).pool.self == b) = _
    split
    · rename_i h
      rw [h]
    · rfl
  show (c.nodes.map _).find? _ = _
  rw [List.find?_map, hself]
  show (c.node? b).map _ = _
  cases hn : c.node? b with
  | none => simp
  | some n =>
    rw [Option.map_some, self_of_node? hn]
    split
    · rfl
    · rfl

theorem node?_setGroup : (c.setGroup a g).node? b =
    if b = a then (c.node? a).map fun n => { n with registry := n.registry.setGroup g }
    else c.node? b := by
  unfold setGroup
  cases hn : c.node? a with
  | none =>
    by_cases hb : b = a
    · rw [if_pos hb, hb]
      exact hn
    · rw [if_neg hb]
  | some n =>
    dsimp only
    rw [node?_setNode, self_of_node? hn]
    by_cases hb : b = a
    · rw [if_pos hb, if_pos hb, hb, hn]
      rfl
    · rw [if_neg hb, if_neg hb]

/-- Setting a group concerns the nodes only. -/
theorem exists_setGroup_eq (c : Cluster) (a : String) (g : Group) :
    ∃ nodes, c.setGroup a g = { c with nodes } := by
  unfold setGroup
  split
  · exact ⟨_, rfl⟩
  · exact ⟨c.nodes, rfl⟩

theorem calls_setGroup : (c.setGroup a g).calls = c.calls := by
  obtain ⟨nodes, he⟩ := exists_setGroup_eq c a g
  rw [he]

/-! ## Views -/

/-- A cluster seen through the groups with one name. -/
@[ext]
structure View where
  /-- The pool of the node at an address. -/
  pool? : String → Option Pool
  /-- The group of the node at an address, with its surroundings. -/
  member? : String → Option Member
  /-- Hosts beside the nodes. -/
  stubs : List Stub
  /-- Where requests go. -/
  route : Route
  /-- The network carries the request. -/
  carries : Dispatch → Bool
  /-- The lookups that are being made. -/
  underway : List Errand
  /-- The URLs of all requests carried so far. -/
  wire : List String
  /-- The calls to loaders so far, with the node that made them. -/
  calls : List (String × SourceCall)

/-- The view with another state of the group at an address. -/
def View.put (v : View) (a : String) (g : Group) : View :=
  { v with member? := Function.update v.member? a ((v.member? a).map ({ · with group := g })) }

namespace View

variable {v : View} {a b : String} {g g' : Group} {m : Member}

theorem member?_put_self (h : v.member? a = some m) :
    (v.put a g).member? a = some { m with group := g } := by
  show Function.update v.member? a _ a = _
  rw [Function.update_self, h]
  rfl

theorem member?_put_of_ne (h : b ≠ a) : (v.put a g).member? b = v.member? b :=
  Function.update_of_ne h ..

/-- Of two states of a group the later one counts. -/
theorem put_put : (v.put a g).put a g' = v.put a g' := by
  unfold put
  dsimp only
  rw [Function.update_self, Function.update_idem, Option.map_map]
  rfl

/-- Groups at different addresses are set in any order. -/
theorem put_comm (h : a ≠ b) : (v.put a g).put b g' = (v.put b g').put a g := by
  unfold put
  dsimp only
  rw [Function.update_of_ne h.symm, Function.update_of_ne h, Function.update_comm h]

end View

/-- The cluster seen through the groups with a name. -/
def view (name : String) (c : Cluster) : View :=
  ⟨fun a => (c.node? a).map (·.pool), fun a => c.member? a name, c.stubs, c.route, c.carries,
    c.underway, c.wire, c.calls⟩

theorem exists_node?_of_view {pool : Pool} (h : (c.view name).pool? a = some pool) :
    ∃ registry, c.node? a = some ⟨pool, registry⟩ := by
  obtain ⟨⟨pool', registry⟩, hn, rfl⟩ := Option.map_eq_some_iff.mp h
  exact ⟨registry, hn⟩

/-- **Setting a group changes the view at one address.** -/
theorem view_setGroup (hg : g.name = name) :
    (c.setGroup a g).view name = (c.view name).put a g := by
  have hpool : ∀ b, ((c.setGroup a g).node? b).map (·.pool) = (c.node? b).map (·.pool) := by
    intro b
    rw [node?_setGroup]
    split
    · rename_i h
      rw [h, Option.map_map]
      rfl
    · rfl
  have hmember : ∀ b, (c.setGroup a g).member? b name =
      Function.update (fun a => c.member? a name) a
        ((c.member? a name).map ({ · with group := g })) b := by
    intro b
    rw [member?, node?_setGroup]
    by_cases hb : b = a
    · subst hb
      rw [if_pos rfl, Function.update_self, member?]
      cases c.node? b with
      | none => rfl
      | some n =>
        show (n.registry.setGroup g).find? name = _
        rw [Registry.find?_setGroup, if_pos hg.symm]
        rfl
    · rw [if_neg hb, Function.update_of_ne hb]
      rfl
  obtain ⟨nodes, he⟩ := exists_setGroup_eq c a g
  rw [he] at hpool hmember ⊢
  exact View.ext (funext hpool) (funext hmember) rfl rfl rfl rfl rfl rfl

end Cluster

end ReadThrough
