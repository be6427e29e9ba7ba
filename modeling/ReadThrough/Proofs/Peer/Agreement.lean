import ReadThrough.Proofs.Peer.Pool

/-!
# Pools of the same peers agree

Every node decides for itself who owns a key, from the list of peers it was given. Nodes whose lists
name the same addresses come to the same decision, however the lists are ordered and however often
they name an address, as long as no two addresses have a point of the ring in common. Then a key has
one owner everywhere: the owner asks nobody, and everybody else asks the owner.

## Main definitions

* `Pool.SamePeers p addrs q addrs'`: two pools place the same nodes at the same points

## Main results

* `Pool.pick?_set_eq_none_iff`, `Pool.pick?_set_eq_some_iff`: whom a pool asks, by the owner of the
  key
* `Pool.nodes_agree`: two pools of the same peers agree on the owner of every key
-/

namespace ReadThrough

theorem normalizeAddress_of_mem {addrs : List String} {a : String}
    (h : a ∈ addrs.map normalizeAddress) : normalizeAddress a = a := by
  obtain ⟨b, -, rfl⟩ := List.mem_map.mp h
  exact normalizeAddress_normalizeAddress b

/-- The clients of two peers differ. -/
theorem Client.create_injOn {a b base : String} (ha : normalizeAddress a = a)
    (hb : normalizeAddress b = b) (h : Client.create a base = Client.create b base) : a = b := by
  have hurl : normalizeAddress a = normalizeAddress b := congrArg Client.baseUrl h
  rwa [ha, hb] at hurl

namespace Ring

/-- There are points if and only if any key belongs to a node. -/
theorem Placed.isEmpty_eq_false_iff {replicas : Nat} {hash : Hash} {nodes : List String} {r : Ring}
    (h : Placed replicas hash nodes r) (key : String) :
    r.isEmpty = false ↔ ∃ n, r.owner? key = some n := by
  have hsize : r.isEmpty = true ↔ r.owner? key = none := by
    rw [h.owner?_eq_none_iff, ← h.size_eq_zero_iff]
    simp [isEmpty]
  rw [← Bool.not_eq_true, hsize]
  exact Option.ne_none_iff_exists'

end Ring

namespace Pool

variable {p q : Pool} {addrs addrs' : List String} {key n : String}

/-! ## Whom one pool asks -/

/-- A pool asks nobody for the keys of its own node, and for keys that nobody owns. -/
theorem pick?_set_eq_none_iff : (p.set addrs).pick? key = none ↔
    ∀ a, (p.set addrs).ring.owner? key = some a → a = p.self := by
  rw [pick?_set]
  cases (p.set addrs).ring.owner? key with
  | none => simp
  | some a => by_cases ha : a = p.self <;> simp [ha]

/-- A pool asks the peer that owns the key, and no other. -/
theorem pick?_set_eq_some_iff (hn : normalizeAddress n = n) :
    (p.set addrs).pick? key = some (Client.create n p.options.basePath) ↔
      (p.set addrs).ring.owner? key = some n ∧ n ≠ p.self := by
  rw [pick?_set]
  cases howner : (p.set addrs).ring.owner? key with
  | none => simp
  | some a =>
    have ha : normalizeAddress a = a :=
      normalizeAddress_of_mem ((placed_set p addrs).mem_of_owner? howner)
    rw [Option.bind_some]
    by_cases hself : a = p.self
    · rw [if_pos hself]
      constructor
      · intro h
        cases h
      · rintro ⟨h, hne⟩
        exact absurd ((Option.some.inj h).symm.trans hself) hne
    · rw [if_neg hself]
      constructor
      · intro h
        obtain rfl := Client.create_injOn ha hn (Option.some.inj h)
        exact ⟨rfl, hself⟩
      · rintro ⟨h, -⟩
        rw [Option.some.inj h]

/-! ## Two pools -/

/-- Two pools, each given its own list of peers, place the same nodes at the same points, and no two
of the nodes have a point in common. -/
structure SamePeers (p : Pool) (addrs : List String) (q : Pool) (addrs' : List String) : Prop where
  /-- They put a node at equally many points, -/
  replicas : p.options.replicas = q.options.replicas
  /-- which the same hash gives. -/
  hash : p.options.hash = q.options.hash
  /-- Apart from trailing slashes, their lists name the same addresses. -/
  same : ∀ a, a ∈ addrs.map normalizeAddress ↔ a ∈ addrs'.map normalizeAddress
  /-- No two of the addresses have a point in common. -/
  apart : Ring.Apart p.options.replicas (p.options.hash.getD Hash.crc32)
    (addrs.map normalizeAddress)

/-- Pools of the same peers have rings with the same owners. -/
theorem SamePeers.owner?_eq (h : SamePeers p addrs q addrs') (key : String) :
    (p.set addrs).ring.owner? key = (q.set addrs').ring.owner? key := by
  have hq := placed_set q addrs'
  rw [← h.replicas, ← h.hash] at hq
  exact (placed_set p addrs).owner?_congr hq h.apart h.same

/-- **The nodes agree on who owns a key.** Pools of the same peers have the same owner for every
key. So when they are pools of two of these peers, and one of them asks the other, the other asks
nobody; and when one of them asks nobody, all others ask that one, unless there is no peer with a
point at all. -/
theorem nodes_agree (h : SamePeers p addrs q addrs') :
    (∀ key, (p.set addrs).ring.owner? key = (q.set addrs').ring.owner? key) ∧
      (p.self ∈ addrs.map normalizeAddress → q.self ∈ addrs.map normalizeAddress → ∀ key,
        ((p.set addrs).pick? key = some (Client.create q.self p.options.basePath) →
          (q.set addrs').pick? key = none) ∧
        ((p.set addrs).ring.isEmpty = false → (p.set addrs).pick? key = none → q.self ≠ p.self →
          (q.set addrs').pick? key = some (Client.create p.self q.options.basePath))) := by
  refine ⟨h.owner?_eq, fun hp hq key => ⟨fun hpick => ?_, fun hring hpick hne => ?_⟩⟩
  · obtain ⟨howner, -⟩ := (pick?_set_eq_some_iff (normalizeAddress_of_mem hq)).mp hpick
    rw [h.owner?_eq] at howner
    apply pick?_set_eq_none_iff.mpr
    intro a ha
    exact Option.some.inj (ha.symm.trans howner)
  · obtain ⟨a, ha⟩ := ((placed_set p addrs).isEmpty_eq_false_iff key).mp hring
    obtain rfl := pick?_set_eq_none_iff.mp hpick a ha
    apply (pick?_set_eq_some_iff (normalizeAddress_of_mem hp)).mpr
    rw [← h.owner?_eq]
    exact ⟨ha, hne.symm⟩

/-- The pool of a node, before it is given peers. -/
def pairPool (self : String) : Pool :=
  let options : Options := { replicas := 2 }
  ⟨normalizeAddress self, options, options.ring, ∅⟩

/-- The lists of the nodes `a` and `b`, which differ in order, in repetitions and in slashes. -/
def pairAddrs : List String := ["http://a", "http://b/"]

@[inherit_doc pairAddrs] def pairAddrs' : List String := ["http://b", "http://a//", "http://b"]

theorem map_pairAddrs : pairAddrs.map normalizeAddress = ["http://a", "http://b"] ∧
    pairAddrs'.map normalizeAddress = ["http://b", "http://a", "http://b"] := by
  decide +kernel

/-- Where the two nodes stand on the ring. -/
theorem pointsOf_pair : Ring.pointsOf 2 Hash.crc32 "http://a" = [1046365417, 690311338] ∧
    Ring.pointsOf 2 Hash.crc32 "http://b" = [2807502163, 2955673872] := by
  decide +kernel

theorem samePeers_pair :
    SamePeers (pairPool "http://a/") pairAddrs (pairPool "http://b") pairAddrs' where
  replicas := rfl
  hash := rfl
  same := by
    intro a
    rw [map_pairAddrs.1, map_pairAddrs.2]
    simp only [List.mem_cons, List.not_mem_nil]
    tauto
  apart := by
    show Ring.Apart 2 Hash.crc32 (pairAddrs.map normalizeAddress)
    simp [Ring.Apart, map_pairAddrs, pointsOf_pair]

/-- The node `a` asks `b` for "j", and `b` asks `a` for "k". -/
theorem nodes_agree_pair :
    (((pairPool "http://a/").set pairAddrs).pick? "j" =
        some (Client.create "http://b" PeerPath.defaultBase) ∧
      ((pairPool "http://b").set pairAddrs').pick? "j" = none) ∧
    ((pairPool "http://a/").set pairAddrs).pick? "k" = none ∧
      ((pairPool "http://b").set pairAddrs').pick? "k" =
        some (Client.create "http://a" PeerPath.defaultBase) := by
  have hself : (pairPool "http://a/").self = "http://a" ∧
      (pairPool "http://b").self = "http://b" := by
    decide +kernel
  have hmem : "http://a" ∈ pairAddrs.map normalizeAddress ∧
      "http://b" ∈ pairAddrs.map normalizeAddress := by
    simp [map_pairAddrs]
  have placed : Ring.Placed 2 Hash.crc32 (pairAddrs.map normalizeAddress) _ :=
    placed_set (pairPool "http://a/") pairAddrs
  have howner := placed.owner?_eq_some_iff_of_apart samePeers_pair.apart
  -- The first point from "j" on is one of `b`, and that from "k" on one of `a`.
  have hj : ((pairPool "http://a/").set pairAddrs).ring.owner? "j" = some "http://b" := by
    have hhash : Hash.crc32 (Text.utf8 "j") = 2137352139 := by decide +kernel
    apply (howner "j" "http://b").mpr
    refine ⟨hmem.2, 2807502163, ?_⟩
    simp [map_pairAddrs, pointsOf_pair, hhash, Ring.Next]
  have hk : ((pairPool "http://a/").set pairAddrs).ring.owner? "k" = some "http://a" := by
    have hhash : Hash.crc32 (Text.utf8 "k") = 140662621 := by decide +kernel
    apply (howner "k" "http://a").mpr
    refine ⟨hmem.1, 690311338, ?_⟩
    simp [map_pairAddrs, pointsOf_pair, hhash, Ring.Next]
  have hring := (placed.isEmpty_eq_false_iff "k").mpr ⟨_, hk⟩
  have hpick : ((pairPool "http://a/").set pairAddrs).pick? "j" =
      some (Client.create "http://b" PeerPath.defaultBase) := by
    apply (pick?_set_eq_some_iff (normalizeAddress_of_mem hmem.2)).mpr
    simp [hj, hself]
  have hnone : ((pairPool "http://a/").set pairAddrs).pick? "k" = none := by
    apply pick?_set_eq_none_iff.mpr
    intro a ha
    rw [hself.1]
    exact Option.some.inj (ha.symm.trans hk)
  have agree := (nodes_agree samePeers_pair).2
  rw [hself.1, hself.2] at agree
  exact ⟨⟨hpick, (agree hmem.1 hmem.2 "j").1 hpick⟩, hnone,
    (agree hmem.1 hmem.2 "k").2 hring hnone (by simp)⟩

end Pool

end ReadThrough
