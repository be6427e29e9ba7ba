import Mathlib
import ReadThrough.Proofs.Ring.Placement

/-!
# The ring that a history of placings leaves

Nodes may come to a ring in any number of placings, one node several times, and with points that
fall together within a node or across nodes and placings. None of this matters but the order in
which the nodes came: the ring is a function of all of them in one list. Its points are the places
of their labels, each node stands where it came last, and a key is found at the first point on the
way up from its hash.

## Main definitions

* `Ring.LastAt replicas hash nodes p n`: of several nodes, `n` is the last with a point at `p`
* `Ring.Account replicas hash nodes r`: all that can be asked of the ring of these nodes

## Main results

* `Ring.lastAt_iff`: the node that a ring has at a point is the last one
* `Ring.account_of_history`: what any placings leave
-/

namespace ReadThrough.Ring

variable {replicas : Nat} {hash : Hash} {nodes : List String} {r : Ring} {n key : String}
  {p : UInt32}

/-! ## The last node at a point -/

/-- Of several nodes, `n` is the last with a point at `p`. -/
def LastAt (replicas : Nat) (hash : Hash) (nodes : List String) (p : UInt32) (n : String) : Prop :=
  ∃ before after, nodes = before ++ n :: after ∧ p ∈ pointsOf replicas hash n ∧
    ∀ m ∈ after, p ∉ pointsOf replicas hash m

theorem mem_pointsOf : p ∈ pointsOf replicas hash n ↔
    ∃ i < replicas, hash (Text.utf8 (toString i ++ n)) = p := by
  simp [pointsOf]

/-- The node that a ring has at a point is the last one with that point. -/
theorem lastAt_iff : LastAt replicas hash nodes p n ↔ nodeAt replicas hash nodes p = some n := by
  rw [nodeAt, List.find?_eq_some_iff_append]
  constructor
  · rintro ⟨before, after, rfl, hp, hno⟩
    refine ⟨decide_eq_true hp, after.reverse, before.reverse, by simp, ?_⟩
    intro m hm
    simpa using hno m (List.mem_reverse.mp hm)
  · -- The search goes through the nodes backwards, so what it passes comes after what it finds.
    rintro ⟨hp, passed, rest, hsplit, hno⟩
    refine ⟨rest.reverse, passed.reverse, ?_, of_decide_eq_true hp, ?_⟩
    · rw [← List.reverse_reverse nodes, hsplit]
      simp
    · intro m hm
      simpa using hno m (List.mem_reverse.mp hm)

/-! ## Rings -/

/-- All that can be asked of the ring on which these nodes were placed, in this order. -/
structure Account (replicas : Nat) (hash : Hash) (nodes : List String) (r : Ring) : Prop where
  /-- The points ascend, and none is there twice. -/
  ascending : r.points.toList.Pairwise (· < ·)
  /-- They are the hashes of the names of the nodes with numbers in front. -/
  mem_points : ∀ p, p ∈ r.points.toList ↔
    ∃ n ∈ nodes, ∃ i < replicas, hash (Text.utf8 (toString i ++ n)) = p
  /-- There are as many as there are different hashes. -/
  size_eq : r.size = (nodes.flatMap fun n => (List.range replicas).map fun i =>
    hash (Text.utf8 (toString i ++ n))).toFinset.card
  /-- At a point stands the last node that has it. -/
  owners_eq : ∀ p n, r.owners[p]? = some n ↔ LastAt replicas hash nodes p n
  /-- At every point there stands one. -/
  owned : ∀ p ∈ r.points.toList, p ∈ r.owners
  /-- The nodes are listed in order, and none of them twice. -/
  nodes_ascending : r.nodes.Pairwise (· < ·)
  /-- Those are listed that stand at a point. -/
  mem_nodes : ∀ n, n ∈ r.nodes ↔ ∃ p ∈ r.points.toList, r.owners[p]? = some n
  /-- A key belongs to no node only if there is no point. -/
  owner?_eq_none : ∀ key, r.owner? key = none ↔ r.points.toList = []
  /-- A key belongs to the last node that has the first point not below the key's hash, or the
  smallest point if all are below. -/
  owner?_eq_some : ∀ key n, r.owner? key = some n ↔
    ∃ p, Next (· ∈ r.points.toList) (hash (Text.utf8 key)) p ∧ LastAt replicas hash nodes p n

namespace Placed

theorem mem_points_iff (h : Placed replicas hash nodes r) :
    p ∈ r.points.toList ↔ ∃ n ∈ nodes, p ∈ pointsOf replicas hash n := by
  rw [h.mem_iff, isSome_nodeAt_iff]

/-- No point is counted twice. -/
theorem size_eq (h : Placed replicas hash nodes r) :
    r.size = (nodes.flatMap (pointsOf replicas hash)).toFinset.card := by
  have hsame : r.points.toList.toFinset = (nodes.flatMap (pointsOf replicas hash)).toFinset := by
    ext p
    rw [List.mem_toFinset, List.mem_toFinset, h.mem_points_iff, List.mem_flatMap]
  rw [← hsame, List.toFinset_card_of_nodup h.coherent.nodup]
  rfl

/-- A node that is listed stands at a point, and the other way round. -/
theorem mem_nodes_iff (h : Placed replicas hash nodes r) :
    n ∈ r.nodes ↔ ∃ p ∈ r.points.toList, r.owners[p]? = some n := by
  rw [Ring.nodes, Text.mem_sortedDistinct, List.mem_map]
  constructor
  · rintro ⟨⟨p, n⟩, hn, rfl⟩
    have howner : r.owners[p]? = some n := Std.HashMap.mem_toList_iff_getElem?_eq_some.mp hn
    -- Wherever a node stands, there is a point.
    refine ⟨p, (h.coherent.mem_iff p).mpr ?_, howner⟩
    rw [Std.HashMap.mem_iff_isSome_getElem?, howner]
    rfl
  · rintro ⟨p, -, howner⟩
    exact ⟨(p, n), Std.HashMap.mem_toList_iff_getElem?_eq_some.mpr howner, rfl⟩

theorem owner?_eq_none_iff_points (h : Placed replicas hash nodes r) :
    r.owner? key = none ↔ r.points.toList = [] := by
  rw [h.owner?_eq_none_iff, ← h.size_eq_zero_iff, ← Array.length_toList, List.length_eq_zero_iff]

/-- The ring of nodes answers as they say. -/
theorem account (h : Placed replicas hash nodes r) : Account replicas hash nodes r where
  ascending := h.sorted
  mem_points p := by
    simp only [h.mem_points_iff, mem_pointsOf]
  size_eq := h.size_eq
  owners_eq p n := by
    rw [h.owners_eq, lastAt_iff]
  owned p hp := (h.coherent.mem_iff p).mp hp
  nodes_ascending := Text.pairwise_sortedDistinct _
  mem_nodes n := h.mem_nodes_iff
  owner?_eq_none key := h.owner?_eq_none_iff_points
  owner?_eq_some key n := by
    have hpoints : (fun p => p ∈ r.points.toList) =
        fun p => ((nodeAt replicas hash nodes p).isSome : Prop) :=
      funext fun p => propext (h.mem_iff p)
    simp only [h.owner?_eq_some_iff, hpoints, lastAt_iff]

end Placed

/-- **What any placings leave.** Whatever lists of nodes are placed on an empty ring, one after the
other, the ring is that of all the nodes in the order in which they came. -/
theorem account_of_history (replicas : Nat) (hash : Hash) (lists : List (List String)) :
    Account replicas hash lists.flatten (lists.foldl Ring.add (.empty replicas hash)) :=
  (Placed.foldl_add replicas hash lists).account

/-- Two nodes, placed one after the other. -/
def overlapping : Ring := [["1"], ["11"]].foldl Ring.add (.empty 2 Hash.numeral)

/-- Point 1 of `"1"` and point 0 of `"11"` fall together, at 11, and `"11"` came last. -/
theorem account_of_history_overlapping :
    overlapping.points.toList = [1, 11, 111] ∧ overlapping.size = 3 ∧
      overlapping.nodes = ["1", "11"] ∧
      overlapping.owner? "2" = some "11" ∧ overlapping.owner? "112" = some "1" ∧
      Account 2 Hash.numeral ["1", "11"] overlapping := by
  have account : Account 2 Hash.numeral ["1", "11"] overlapping :=
    account_of_history 2 Hash.numeral [["1"], ["11"]]
  have points : overlapping.points.toList = [1, 11, 111] := by cbv
  have at1 : overlapping.owners[(1 : UInt32)]? = some "1" := by cbv
  have at11 : overlapping.owners[(11 : UInt32)]? = some "11" := by cbv
  have at111 : overlapping.owners[(111 : UInt32)]? = some "11" := by cbv
  have listed : overlapping.nodes = ["1", "11"] := by
    apply account.nodes_ascending.eq_of_mem_iff (by decide)
    intro n
    rw [account.mem_nodes, points]
    simp only [List.exists_mem_cons_iff, at1, at11, at111]
    grind
  have below : overlapping.owner? "2" = some "11" := by cbv
  have round : overlapping.owner? "112" = some "1" := by cbv
  exact ⟨points, congrArg List.length points, listed, below, round, account⟩

/-- The key at 27 goes round to the smallest point, until a node comes that has a point at 28. -/
example : ((Ring.empty 3 Hash.numeral).add ["6", "4", "2"]).owner? "27" = some "2" ∧
    (((Ring.empty 3 Hash.numeral).add ["6", "4", "2"]).add ["8"]).owner? "27" = some "8" := by
  constructor <;> cbv

end ReadThrough.Ring
