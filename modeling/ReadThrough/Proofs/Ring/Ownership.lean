import ReadThrough.Proofs.Ring.Placement

/-!
# Who owns a key on different rings

A node that comes to a ring, wherever in the order of placing, takes keys over from others, and no
key changes hands otherwise; so a node that leaves a ring gives up its own keys only. This is so
even where points of different nodes fall together. Where they do not, the order of placing makes no
difference at all, nor does placing a node twice.

## Main definitions

* `Ring.Apart replicas hash nodes`: no two of the nodes have a point in common

## Main results

* `Ring.Placed.owner?_of_subset`: a node keeps a key as long as it keeps its points and no point is
  new
* `Ring.minimal_disruption`: keys only move to a node that comes, or from a node that leaves
* `Ring.Placed.owner?_eq_some_iff_of_apart`: the first point of a key tells whose it is
* `Ring.Placed.owner?_congr`: rings of the same nodes agree
-/

namespace ReadThrough.Ring

variable {replicas : Nat} {hash : Hash} {nodes nodes' l : List String} {r r' : Ring}
  {m n key : String} {p : UInt32}

/-! ## Nodes that come and leave -/

/-- A node keeps a key as long as it keeps its points and no point is new. -/
theorem Placed.owner?_of_subset (h : Placed replicas hash nodes r)
    (h' : Placed replicas hash nodes' r') (howner : r.owner? key = some m)
    (hkeep : ∀ p, nodeAt replicas hash nodes p = some m → nodeAt replicas hash nodes' p = some m)
    (hnew : ∀ p, (nodeAt replicas hash nodes' p).isSome → (nodeAt replicas hash nodes p).isSome) :
    r'.owner? key = some m := by
  obtain ⟨p, hnext, hp⟩ := h.owner?_eq_some_iff.mp howner
  have hp' := hkeep p hp
  -- The first point of the key is still there, and no other has come before it.
  refine h'.owner?_eq_some_iff.mpr ⟨p, hnext.subset hnew ?_, hp'⟩
  rw [hp']
  rfl

/-- A ring without points stays so if no point is new. -/
theorem Placed.owner?_none_of_subset (h : Placed replicas hash nodes r)
    (h' : Placed replicas hash nodes' r') (howner : r.owner? key = none)
    (hnew : ∀ p, (nodeAt replicas hash nodes' p).isSome → (nodeAt replicas hash nodes p).isSome) :
    r'.owner? key = none := by
  refine h'.owner?_eq_none_iff.mpr fun p => ?_
  by_contra hp
  have hsome := hnew p (Option.isSome_iff_ne_none.mpr hp)
  rw [h.owner?_eq_none_iff.mp howner p] at hsome
  cases hsome

theorem nodeAt_filter_ne (h : nodeAt replicas hash nodes p = some m) (hne : m ≠ n) :
    nodeAt replicas hash (nodes.filter (· ≠ n)) p = some m := by
  obtain ⟨hm, as, bs, hsplit, hno⟩ := List.find?_eq_some_iff_append.mp h
  rw [nodeAt, ← List.filter_reverse, hsplit, List.filter_append,
    List.filter_cons_of_pos (by simpa using hne)]
  refine List.find?_eq_some_iff_append.mpr ⟨hm, _, _, rfl, fun x hx => ?_⟩
  exact hno x (List.mem_filter.mp hx).1

/-- What stands at a point after a node was placed among others: this node, or what stood there. -/
theorem nodeAt_insert (replicas : Nat) (hash : Hash) (nodes nodes' : List String) (n : String)
    (p : UInt32) :
    nodeAt replicas hash (nodes ++ n :: nodes') p = some n ∨
      nodeAt replicas hash (nodes ++ n :: nodes') p = nodeAt replicas hash (nodes ++ nodes') p := by
  rw [← List.singleton_append, nodeAt_append, nodeAt_append, nodeAt_append, nodeAt_singleton]
  cases nodeAt replicas hash nodes' p with
  | some m => exact .inr rfl
  | none =>
    by_cases hp : p ∈ pointsOf replicas hash n
    · rw [if_pos hp]
      exact .inl rfl
    · rw [if_neg hp]
      exact .inr rfl

/-- Removing a node moves its own keys only. -/
theorem Placed.owner?_filter_ne (h : Placed replicas hash nodes r)
    (h' : Placed replicas hash (nodes.filter (· ≠ n)) r') (hne : r.owner? key ≠ some n) :
    r'.owner? key = r.owner? key := by
  have hnew : ∀ p, (nodeAt replicas hash (nodes.filter (· ≠ n)) p).isSome →
      (nodeAt replicas hash nodes p).isSome := by
    intro p hp
    rw [isSome_nodeAt_iff] at hp ⊢
    obtain ⟨m, hm, hp⟩ := hp
    exact ⟨m, (List.mem_filter.mp hm).1, hp⟩
  cases howner : r.owner? key with
  | none => exact h.owner?_none_of_subset h' howner hnew
  | some m =>
    have hmn : m ≠ n := by
      rintro rfl
      exact hne howner
    exact h.owner?_of_subset h' howner (fun p hp => nodeAt_filter_ne hp hmn) hnew

/-- A node that is placed among others takes a key over, or leaves it where it was. -/
theorem Placed.owner?_insert (h : Placed replicas hash (nodes ++ nodes') r)
    (h' : Placed replicas hash (nodes ++ n :: nodes') r') :
    r'.owner? key = some n ∨ r'.owner? key = r.owner? key := by
  have hnew : ∀ p, (nodeAt replicas hash (nodes ++ nodes') p).isSome →
      (nodeAt replicas hash (nodes ++ n :: nodes') p).isSome := by
    intro p hp
    rcases nodeAt_insert replicas hash nodes nodes' n p with he | he
    · rw [he]
      rfl
    · rwa [he]
  cases howner : r'.owner? key with
  | none => exact .inr (h'.owner?_none_of_subset h howner hnew).symm
  | some m =>
    by_cases hmn : m = n
    · exact .inl (congrArg some hmn)
    · refine .inr (h'.owner?_of_subset h howner (fun p hp => ?_) hnew).symm
      rcases nodeAt_insert replicas hash nodes nodes' n p with he | he
      · exact absurd (Option.some.inj (hp.symm.trans he)) hmn
      · rwa [← he]

/-- **Minimal disruption.** If the ring of some nodes does not give a key to node `n`, then it stays
where it is when `n` is removed. Placing `n` among the nodes, or on a ring that has come about in
whatever way, moves no key but to `n`. -/
theorem minimal_disruption (replicas : Nat) (hash : Hash) (nodes : List String) (n key : String) :
    (((Ring.empty replicas hash).add nodes).owner? key ≠ some n →
      ((Ring.empty replicas hash).add (nodes.filter (· ≠ n))).owner? key =
        ((Ring.empty replicas hash).add nodes).owner? key) ∧
      (∀ before after, nodes = before ++ after →
        ((Ring.empty replicas hash).add (before ++ n :: after)).owner? key = some n ∨
          ((Ring.empty replicas hash).add (before ++ n :: after)).owner? key =
            ((Ring.empty replicas hash).add nodes).owner? key) ∧
      ∀ lists : List (List String),
        ((lists.foldl Ring.add (.empty replicas hash)).add [n]).owner? key = some n ∨
          ((lists.foldl Ring.add (.empty replicas hash)).add [n]).owner? key =
            (lists.foldl Ring.add (.empty replicas hash)).owner? key := by
  have placed : ∀ nodes, Placed replicas hash nodes ((Ring.empty replicas hash).add nodes) :=
    fun nodes => (Placed.empty replicas hash).add nodes
  refine ⟨fun hne => (placed nodes).owner?_filter_ne (placed _) hne, ?_, fun lists => ?_⟩
  · rintro before after rfl
    exact (placed _).owner?_insert (placed _)
  · have hlists := Placed.foldl_add replicas hash lists
    -- The node comes last, so there is nothing behind it.
    have hlast : Placed replicas hash (lists.flatten ++ [])
        (lists.foldl Ring.add (.empty replicas hash)) := by
      rw [List.append_nil]
      exact hlists
    exact hlast.owner?_insert (hlists.add [n])

/-- All points fall together, so that the last node has all keys, and still has them when another
leaves. -/
theorem minimal_disruption_collision :
    ((Ring.empty 1 (Hash.constant 0)).add ["a", "b"]).owner? "k" ≠ some "a" ∧
      ((Ring.empty 1 (Hash.constant 0)).add ["b"]).owner? "k" =
        ((Ring.empty 1 (Hash.constant 0)).add ["a", "b"]).owner? "k" := by
  have hne : ((Ring.empty 1 (Hash.constant 0)).add ["a", "b"]).owner? "k" ≠ some "a" := by
    decide +kernel
  exact ⟨hne, (minimal_disruption 1 (Hash.constant 0) ["a", "b"] "a" "k").1 hne⟩

/-! ## Rings of the same nodes -/

/-- No two of the nodes have a point in common. -/
def Apart (replicas : Nat) (hash : Hash) (nodes : List String) : Prop :=
  ∀ m ∈ nodes, ∀ n ∈ nodes, ∀ p ∈ pointsOf replicas hash m, p ∈ pointsOf replicas hash n → m = n

instance (replicas : Nat) (hash : Hash) (nodes : List String) :
    Decidable (Apart replicas hash nodes) :=
  decidable_of_iff ((nodes.all fun m => nodes.all fun n => (pointsOf replicas hash m).all fun p =>
      decide (p ∈ pointsOf replicas hash n → m = n)) = true) (by
    simp only [List.all_eq_true, decide_eq_true_eq]
    exact Iff.rfl)

/-- Where nodes have no points in common, whoever has a point stands there. -/
theorem nodeAt_eq_some_iff (h : Apart replicas hash nodes) :
    nodeAt replicas hash nodes p = some n ↔ n ∈ nodes ∧ p ∈ pointsOf replicas hash n := by
  constructor
  · exact mem_of_nodeAt
  · rintro ⟨hmem, hp⟩
    obtain ⟨m, hm⟩ := Option.isSome_iff_exists.mp (isSome_nodeAt_iff.mpr ⟨n, hmem, hp⟩)
    obtain ⟨hm', hpm⟩ := mem_of_nodeAt hm
    rw [hm, h m hm' n hmem p hpm hp]

/-- The first point of the key says which node it belongs to, where nodes have no points in
common. -/
theorem Placed.owner?_eq_some_iff_of_apart (h : Placed replicas hash nodes r)
    (hapart : Apart replicas hash nodes) (key n : String) : r.owner? key = some n ↔
      n ∈ nodes ∧ ∃ p ∈ pointsOf replicas hash n,
        Next (· ∈ nodes.flatMap (pointsOf replicas hash)) (hash (Text.utf8 key)) p := by
  have hpoints : (fun p => (nodeAt replicas hash nodes p).isSome = true) =
      (· ∈ nodes.flatMap (pointsOf replicas hash)) := by
    funext p
    rw [isSome_nodeAt_iff, List.mem_flatMap]
  rw [h.owner?_eq_some_iff, hpoints]
  constructor
  · rintro ⟨p, hnext, hp⟩
    obtain ⟨hn, hp⟩ := (nodeAt_eq_some_iff hapart).mp hp
    exact ⟨hn, p, hp, hnext⟩
  · rintro ⟨hn, p, hp, hnext⟩
    exact ⟨p, hnext, (nodeAt_eq_some_iff hapart).mpr ⟨hn, hp⟩⟩

/-- **Rings of the same nodes agree**, in whatever order and however often the nodes were placed. -/
theorem Placed.owner?_congr (h : Placed replicas hash nodes r)
    (h' : Placed replicas hash nodes' r') (hapart : Apart replicas hash nodes)
    (hsame : ∀ n, n ∈ nodes ↔ n ∈ nodes') : r.owner? key = r'.owner? key := by
  have hapart' : Apart replicas hash nodes' := fun m hm n hn =>
    hapart m ((hsame m).mpr hm) n ((hsame n).mpr hn)
  have hat : nodeAt replicas hash nodes = nodeAt replicas hash nodes' := by
    funext p
    apply Option.ext
    intro n
    rw [nodeAt_eq_some_iff hapart, nodeAt_eq_some_iff hapart', hsame]
  apply Option.ext
  intro n
  rw [h.owner?_eq_some_iff, h'.owner?_eq_some_iff, hat]

/-- Keys belong to nodes of the ring. -/
theorem Placed.mem_of_owner? (h : Placed replicas hash nodes r) (hn : r.owner? key = some n) :
    n ∈ nodes := by
  obtain ⟨p, -, hp⟩ := h.owner?_eq_some_iff.mp hn
  exact (mem_of_nodeAt hp).1

/-- As soon as there is a node with a point, every key belongs to a node. -/
theorem Placed.exists_owner? (h : Placed replicas hash nodes r) (hr : replicas ≠ 0)
    (hn : n ∈ nodes) (key : String) : ∃ m, r.owner? key = some m := by
  rw [← Option.isSome_iff_exists, Option.isSome_iff_ne_none]
  intro hnone
  have hp : hash (label n 0) ∈ pointsOf replicas hash n :=
    List.mem_map.mpr ⟨0, List.mem_range.mpr (Nat.pos_of_ne_zero hr), rfl⟩
  have hsome := isSome_nodeAt_iff.mpr ⟨n, hn, hp⟩
  rw [h.owner?_eq_none_iff.mp hnone] at hsome
  cases hsome

end ReadThrough.Ring
