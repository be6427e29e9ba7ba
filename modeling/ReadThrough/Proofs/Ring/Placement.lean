import Mathlib.Data.List.Nodup
import ReadThrough.Ring.Basic

/-!
# What stands where on a ring

However a ring has come about, its points are those of the nodes that were placed, in ascending
order and each once, and at a point stands the node that was placed there last. So a key belongs to
the last node with a point at the place where the way up from the key's hash, round the circle,
first meets a point.

## Main definitions

* `Ring.pointsOf replicas hash node`: the points of a node
* `Ring.nodeAt replicas hash nodes p`: the last of several nodes with a point at `p`
* `Ring.Placed replicas hash nodes r`: `r` is the ring of these nodes, placed in this order
* `Ring.Next S x p`: of the points in `S`, `p` is the first on the way up from `x`

## Main results

* `Ring.Placed.add`: placing further nodes
* `Ring.lowerBound_spec`: what the binary search finds
* `Ring.Placed.owner?_eq_some_iff`, `Ring.Placed.owner?_eq_none_iff`: the node a key belongs to
-/

namespace ReadThrough.Ring

variable {replicas : Nat} {hash : Hash} {node n : String} {nodes more : List String} {r : Ring}
  {p q x : UInt32} {key : String}

/-! ## Nodes and their points -/

/-- The points of a node: the hashes of its name with the numbers of the points in front. -/
def pointsOf (replicas : Nat) (hash : Hash) (node : String) : List UInt32 :=
  (List.range replicas).map fun i => hash (Text.utf8 (toString i ++ node))

/-- The last of several nodes with a point at `p`. -/
def nodeAt (replicas : Nat) (hash : Hash) (nodes : List String) (p : UInt32) : Option String :=
  nodes.reverse.find? fun n => p ∈ pointsOf replicas hash n

theorem nodeAt_append : nodeAt replicas hash (nodes ++ more) p =
    (nodeAt replicas hash more p).or (nodeAt replicas hash nodes p) := by
  rw [nodeAt, List.reverse_append, List.find?_append]
  rfl

theorem nodeAt_singleton : nodeAt replicas hash [node] p =
    if p ∈ pointsOf replicas hash node then some node else none := by
  by_cases hp : p ∈ pointsOf replicas hash node <;> simp [nodeAt, hp]

theorem isSome_nodeAt_iff : (nodeAt replicas hash nodes p).isSome ↔
    ∃ n ∈ nodes, p ∈ pointsOf replicas hash n := by
  simp [nodeAt]

theorem mem_of_nodeAt (h : nodeAt replicas hash nodes p = some n) :
    n ∈ nodes ∧ p ∈ pointsOf replicas hash n := by
  have hp := List.find?_some (p := fun n => decide (p ∈ pointsOf replicas hash n)) h
  exact ⟨List.mem_reverse.mp (List.mem_of_find?_eq_some h), of_decide_eq_true hp⟩

/-! ## Placing nodes -/

/-- The points of a ring are those at which a node stands, each once. -/
structure Coherent (r : Ring) : Prop where
  nodup : r.points.toList.Nodup
  mem_iff : ∀ p, p ∈ r.points.toList ↔ p ∈ r.owners

@[simp] theorem placePoint_hash {i : Nat} : (placePoint node r i).hash = r.hash := rfl

theorem owners_placePoint {i : Nat} : (placePoint node r i).owners[p]? =
    if p = r.hash (label node i) then some node else r.owners[p]? := by
  show (r.owners.insert (r.hash (label node i)) node)[p]? = _
  rw [Std.HashMap.getElem?_insert]
  by_cases hp : p = r.hash (label node i)
  · simp [hp]
  · simp [hp, Ne.symm hp]

theorem Coherent.placePoint (h : Coherent r) (node : String) (i : Nat) :
    Coherent (Ring.placePoint node r i) := by
  by_cases hmem : r.hash (label node i) ∈ r.owners
  · -- A point that was there already gets another node.
    have hpoints : (Ring.placePoint node r i).points = r.points := if_pos hmem
    refine ⟨hpoints ▸ h.nodup, fun p => ?_⟩
    rw [hpoints, h.mem_iff p]
    show p ∈ r.owners ↔ p ∈ r.owners.insert (r.hash (label node i)) node
    rw [Std.HashMap.mem_insert, beq_iff_eq]
    constructor
    · intro hp
      exact .inr hp
    · rintro (rfl | hp)
      · exact hmem
      · exact hp
  · have hpoints : (Ring.placePoint node r i).points = r.points.push (r.hash (label node i)) :=
      if_neg hmem
    have hnew : r.hash (label node i) ∉ r.points.toList := fun hp => hmem ((h.mem_iff _).mp hp)
    refine ⟨?_, fun p => ?_⟩
    · rw [hpoints, Array.toList_push, List.nodup_append']
      exact ⟨h.nodup, List.nodup_singleton _, fun _ hp hp' =>
        hnew (List.mem_singleton.mp hp' ▸ hp)⟩
    · rw [hpoints, Array.toList_push, List.mem_append, List.mem_singleton, h.mem_iff p]
      show _ ↔ p ∈ r.owners.insert (r.hash (label node i)) node
      rw [Std.HashMap.mem_insert, beq_iff_eq, or_comm, eq_comm]

section Folds

variable {is : List Nat}

@[simp] theorem replicas_foldl_placePoint :
    (is.foldl (placePoint node) r).replicas = r.replicas := by
  induction is generalizing r with
  | nil => rfl
  | cons i is ih => exact ih

@[simp] theorem hash_foldl_placePoint : (is.foldl (placePoint node) r).hash = r.hash := by
  induction is generalizing r with
  | nil => rfl
  | cons i is ih => exact ih

theorem owners_foldl_placePoint : (is.foldl (placePoint node) r).owners[p]? =
    if p ∈ is.map (fun i => r.hash (label node i)) then some node else r.owners[p]? := by
  induction is generalizing r with
  | nil => simp
  | cons i is ih =>
    rw [List.foldl_cons, ih, owners_placePoint, placePoint_hash, List.map_cons]
    by_cases hp : p = r.hash (label node i) <;> simp [hp]

theorem Coherent.foldl_placePoint (h : Coherent r) :
    Coherent (is.foldl (Ring.placePoint node) r) := by
  induction is generalizing r with
  | nil => exact h
  | cons i is ih => exact ih (h.placePoint node i)

@[simp] theorem replicas_foldl_placeNode : (nodes.foldl placeNode r).replicas = r.replicas := by
  induction nodes generalizing r with
  | nil => rfl
  | cons n nodes ih => exact ih.trans replicas_foldl_placePoint

@[simp] theorem hash_foldl_placeNode : (nodes.foldl placeNode r).hash = r.hash := by
  induction nodes generalizing r with
  | nil => rfl
  | cons n nodes ih => exact ih.trans hash_foldl_placePoint

/-- **The node placed last has a point.** -/
theorem owners_foldl_placeNode : (nodes.foldl placeNode r).owners[p]? =
    (nodeAt r.replicas r.hash nodes p).or r.owners[p]? := by
  induction nodes generalizing r with
  | nil => rfl
  | cons n nodes ih =>
    have hn : (placeNode r n).owners[p]? =
        if p ∈ pointsOf r.replicas r.hash n then some n else r.owners[p]? :=
      owners_foldl_placePoint
    have hr : (placeNode r n).replicas = r.replicas := replicas_foldl_placePoint
    have hh : (placeNode r n).hash = r.hash := hash_foldl_placePoint
    rw [List.foldl_cons, ih, hn, hr, hh, ← List.singleton_append, nodeAt_append, nodeAt_singleton]
    by_cases hp : p ∈ pointsOf r.replicas r.hash n <;> simp [hp]

theorem Coherent.foldl_placeNode (h : Coherent r) : Coherent (nodes.foldl placeNode r) := by
  induction nodes generalizing r with
  | nil => exact h
  | cons n nodes ih => exact ih h.foldl_placePoint

end Folds

/-! ## Rings of nodes -/

/-- `r` is the ring of these nodes, placed in this order. -/
structure Placed (replicas : Nat) (hash : Hash) (nodes : List String) (r : Ring) : Prop where
  replicas_eq : r.replicas = replicas
  hash_eq : r.hash = hash
  /-- At a point stands the node that was placed there last. -/
  owners_eq : ∀ p, r.owners[p]? = nodeAt replicas hash nodes p
  /-- The points are those of the nodes. -/
  mem_iff : ∀ p, p ∈ r.points.toList ↔ (nodeAt replicas hash nodes p).isSome
  /-- The points are in order. -/
  sorted : r.points.toList.Pairwise (· < ·)

namespace Placed

theorem empty (replicas : Nat) (hash : Hash) : Placed replicas hash [] (.empty replicas hash) :=
  ⟨rfl, rfl, fun p => by simp [Ring.empty, nodeAt], fun p => by simp [Ring.empty, nodeAt],
    List.Pairwise.nil⟩

theorem coherent (h : Placed replicas hash nodes r) : Coherent r where
  nodup := h.sorted.imp fun hlt => UInt32.ne_of_lt hlt
  mem_iff p := by rw [h.mem_iff p, ← h.owners_eq p, Std.HashMap.mem_iff_isSome_getElem?]

/-- **Placing further nodes.** -/
theorem add (h : Placed replicas hash nodes r) (more : List String) :
    Placed replicas hash (nodes ++ more) (r.add more) := by
  obtain ⟨rfl, rfl, howners, hmem, hsorted⟩ := id h
  have howners' : ∀ p, (r.add more).owners[p]? =
      nodeAt r.replicas r.hash (nodes ++ more) p := by
    intro p
    rw [nodeAt_append, ← howners p]
    exact owners_foldl_placeNode
  -- The points are sorted when all nodes are placed; until then they are new ones behind old ones.
  have hperm : (r.add more).points.toList.Perm (more.foldl placeNode r).points.toList :=
    List.mergeSort_perm _ _
  have hcoherent : Coherent (more.foldl placeNode r) := h.coherent.foldl_placeNode
  refine ⟨replicas_foldl_placeNode, hash_foldl_placeNode, howners', fun p => ?_, ?_⟩
  · rw [← howners' p, hperm.mem_iff, hcoherent.mem_iff, Std.HashMap.mem_iff_isSome_getElem?]
    rfl
  · exact pairwise_lt_mergeSort hcoherent.nodup

/-- However often nodes are placed, the ring is that of all of them. -/
theorem foldl_add (replicas : Nat) (hash : Hash) (lists : List (List String)) :
    Placed replicas hash lists.flatten (lists.foldl Ring.add (.empty replicas hash)) := by
  have grow : ∀ {nodes : List String} {r : Ring}, Placed replicas hash nodes r →
      Placed replicas hash (nodes ++ lists.flatten) (lists.foldl Ring.add r) := by
    induction lists with
    | nil =>
      intro nodes r h
      simpa using h
    | cons list lists ih =>
      intro nodes r h
      rw [List.flatten_cons, ← List.append_assoc]
      exact ih (h.add list)
  exact grow (.empty replicas hash)

end Placed

/-! ## Searching -/

theorem getElem_le_of_sorted {a : Array UInt32} (sorted : a.toList.Pairwise (· < ·)) {i j : Nat}
    (hi : i < a.size) (hj : j < a.size) (hij : i ≤ j) : a[i] ≤ a[j] := by
  rcases Nat.eq_or_lt_of_le hij with rfl | hlt
  · exact UInt32.le_refl _
  · have hs := List.pairwise_iff_getElem.mp sorted i j (by simpa) (by simpa) hlt
    exact UInt32.le_of_lt (by simpa using hs)

/-- **What the search finds**: below its result stand the values below `x`, and from there on the
others. -/
theorem lowerBound_spec {a : Array UInt32} (sorted : a.toList.Pairwise (· < ·)) {lo hi : Nat}
    (hle : lo ≤ hi) (hhi : hi ≤ a.size) (below : ∀ j (h : j < a.size), j < lo → a[j] < x)
    (above : ∀ j (h : j < a.size), hi ≤ j → x ≤ a[j]) :
    lowerBound a x lo hi ≤ a.size ∧ (∀ j (h : j < a.size), j < lowerBound a x lo hi → a[j] < x) ∧
      ∀ j (h : j < a.size), lowerBound a x lo hi ≤ j → x ≤ a[j] := by
  -- What is outside of `[lo, hi)` is settled already, and each step settles one half of the rest.
  induction lo, hi using lowerBound.induct a x with
  | case1 lo hi hlt mid hmid ih =>
    have hm : mid < a.size := by omega
    have hx : a[mid] < x := by simpa [Array.getElem?_eq_getElem hm] using hmid
    rw [lowerBound, if_pos hlt, if_pos hmid]
    apply ih (by omega) hhi
    · intro j hj hjm
      exact UInt32.lt_of_le_of_lt (getElem_le_of_sorted sorted hj hm (by omega)) hx
    · exact above
  | case2 lo hi hlt mid hmid ih =>
    have hm : mid < a.size := by omega
    have hx : x ≤ a[mid] := by simpa [Array.getElem?_eq_getElem hm] using hmid
    rw [lowerBound, if_pos hlt, if_neg hmid]
    apply ih (by omega) (by omega) below
    intro j hj hjm
    exact UInt32.le_trans hx (getElem_le_of_sorted sorted hm hj hjm)
  | case3 lo hi hlt =>
    obtain rfl : lo = hi := by omega
    rw [lowerBound, if_neg hlt]
    exact ⟨hhi, below, above⟩

/-- Of the points in `S`, `p` is the first that is not below `x`, or the smallest if all are. -/
def Next (S : UInt32 → Prop) (x p : UInt32) : Prop :=
  S p ∧ (x ≤ p ∧ (∀ q, S q → x ≤ q → p ≤ q) ∨ (∀ q, S q → q < x) ∧ ∀ q, S q → p ≤ q)

/-- There is one first point at most. -/
theorem Next.unique {S : UInt32 → Prop} (hp : Next S x p) (hq : Next S x q) : p = q := by
  obtain ⟨hSp, ⟨hxp, hp⟩ | ⟨hpx, hp⟩⟩ := hp <;> obtain ⟨hSq, ⟨hxq, hq⟩ | ⟨hqx, hq⟩⟩ := hq
  · exact UInt32.le_antisymm (hp q hSq hxq) (hq p hSp hxp)
  · exact absurd (hqx p hSp) (UInt32.not_lt.mpr hxp)
  · exact absurd (hpx q hSq) (UInt32.not_lt.mpr hxq)
  · exact UInt32.le_antisymm (hp q hSq) (hq p hSp)

/-- The first point of all stays the first as long as it is there. -/
theorem Next.subset {S T : UInt32 → Prop} (h : Next S x p) (hsub : ∀ q, T q → S q) (hp : T p) :
    Next T x p := by
  obtain ⟨-, ⟨hxp, hmin⟩ | ⟨hx, hmin⟩⟩ := h
  · exact ⟨hp, .inl ⟨hxp, fun q hq => hmin q (hsub q hq)⟩⟩
  · exact ⟨hp, .inr ⟨fun q hq => hx q (hsub q hq), fun q hq => hmin q (hsub q hq)⟩⟩

namespace Placed

/-- The search finds the first point on the way up from a hash, and round. -/
theorem exists_next (h : Placed replicas hash nodes r) (hne : r.points.size ≠ 0) (x : UInt32) :
    ∃ p, r.points[lowerBound r.points x 0 r.points.size % r.points.size]? = some p ∧
      Next (fun p => (nodeAt replicas hash nodes p).isSome) x p := by
  obtain ⟨hsize, below, above⟩ := lowerBound_spec (x := x) h.sorted (Nat.zero_le _)
    (Nat.le_refl _) (fun j _ hj => absurd hj (Nat.not_lt_zero j))
    fun j hj hj' => absurd hj (Nat.not_lt.mpr hj')
  generalize lowerBound r.points x 0 r.points.size = k at hsize below above
  -- What is found has to be compared with every point, and every point has an index.
  have index : ∀ q, (nodeAt replicas hash nodes q).isSome →
      ∃ j, ∃ hj : j < r.points.size, r.points[j] = q := by
    intro q hq
    obtain ⟨j, hj, he⟩ := List.mem_iff_getElem.mp ((h.mem_iff q).mpr hq)
    exact ⟨j, by simpa using hj, by simpa using he⟩
  have mem : ∀ j (hj : j < r.points.size),
      (nodeAt replicas hash nodes r.points[j]).isSome := by
    intro j hj
    rw [← h.mem_iff]
    exact Array.mem_toList_iff.mpr (Array.getElem_mem hj)
  rcases Nat.lt_or_eq_of_le hsize with hk | rfl
  · rw [Nat.mod_eq_of_lt hk]
    refine ⟨_, Array.getElem?_eq_getElem hk, mem k hk, .inl ⟨above k hk (Nat.le_refl _), ?_⟩⟩
    intro q hq hxq
    obtain ⟨j, hj, rfl⟩ := index q hq
    apply getElem_le_of_sorted h.sorted hk hj
    by_contra hlt
    exact absurd (below j hj (by omega)) (UInt32.not_lt.mpr hxq)
  · -- All points are below the hash, and the search starts anew from the smallest.
    have h0 : 0 < r.points.size := by omega
    rw [Nat.mod_self]
    refine ⟨_, Array.getElem?_eq_getElem h0, mem 0 h0, .inr ⟨fun q hq => ?_, fun q hq => ?_⟩⟩
    · obtain ⟨j, hj, rfl⟩ := index q hq
      exact below j hj hj
    · obtain ⟨j, hj, rfl⟩ := index q hq
      exact getElem_le_of_sorted h.sorted h0 hj (Nat.zero_le _)

theorem size_eq_zero_iff (h : Placed replicas hash nodes r) :
    r.points.size = 0 ↔ ∀ p, nodeAt replicas hash nodes p = none := by
  rw [← Array.length_toList, List.length_eq_zero_iff, List.eq_nil_iff_forall_not_mem]
  simp only [h.mem_iff, Option.not_isSome_iff_eq_none]

/-- **The node a key belongs to** is the last one with a point at the first point on the way up from
the key's hash. -/
theorem owner?_eq_some_iff (h : Placed replicas hash nodes r) : r.owner? key = some n ↔
    ∃ p, Next (fun p => (nodeAt replicas hash nodes p).isSome) (hash (Text.utf8 key)) p ∧
      nodeAt replicas hash nodes p = some n := by
  by_cases hz : r.points.size = 0
  · have hnone := h.size_eq_zero_iff.mp hz
    have hempty : r.points.isEmpty := by simpa using hz
    rw [owner?, if_pos hempty]
    constructor
    · intro hn
      cases hn
    · rintro ⟨p, -, hp⟩
      rw [hnone p] at hp
      cases hp
  · have hempty : ¬ r.points.isEmpty := by simpa using hz
    obtain ⟨p, hp, hnext⟩ := h.exists_next hz (hash (Text.utf8 key))
    have howner : r.owner? key = nodeAt replicas hash nodes p := by
      rw [owner?, if_neg hempty, h.hash_eq]
      show r.points[_]?.bind _ = _
      rw [hp, Option.bind_some, h.owners_eq]
    rw [howner]
    constructor
    · intro hn
      exact ⟨p, hnext, hn⟩
    · rintro ⟨q, hq, hn⟩
      rw [hnext.unique hq]
      exact hn

/-- A key belongs to no node only if there is no point. -/
theorem owner?_eq_none_iff (h : Placed replicas hash nodes r) :
    r.owner? key = none ↔ ∀ p, nodeAt replicas hash nodes p = none := by
  rw [← h.size_eq_zero_iff]
  constructor
  · intro hnone
    by_contra hz
    obtain ⟨p, hp, hnext⟩ := h.exists_next hz (hash (Text.utf8 key))
    obtain ⟨n, hn⟩ := Option.isSome_iff_exists.mp hnext.1
    have hsome := h.owner?_eq_some_iff.mpr ⟨p, hnext, hn⟩
    rw [hnone] at hsome
    cases hsome
  · intro hz
    rw [owner?, if_pos (by simpa using hz)]

end Placed

end ReadThrough.Ring
