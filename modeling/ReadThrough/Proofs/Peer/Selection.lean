import ReadThrough.Proofs.Peer.Agreement

/-!
# Selection follows the last list of peers

A pool may be given its peers any number of times. Each list replaces the one before, so all that a
pool answers follows from the last list. Neither repetitions nor trailing slashes in it make a
difference to whom the pool asks, and trailing slashes of the node's own address do not hide that a
key is its own.

## Main definitions

* `Pool.lastNodes lists`: the nodes that the last of several lists names
* `Pool.Selects own options nodes q`: all that can be asked of the pool of these nodes

## Main results

* `Pool.foldl_set`: a pool is what the last list makes of it
* `Pool.selects_lastNodes`: how a pool selects peers
-/

namespace ReadThrough.Pool

variable {self : String} {options : Options} {p : Pool} {lists : List (List String)}

/-! ## The last list -/

/-- The nodes that the last of several lists names, by their addresses without trailing slashes. -/
def lastNodes (lists : List (List String)) : List String :=
  (lists.getLast?.getD []).map normalizeAddress

/-- A pool is created as if it had been given an empty list. -/
theorem set_nil_of_create (h : create self options = .ok p) : p.set [] = p := by
  obtain ⟨-, rfl⟩ := create_eq_ok_iff.mp h
  have hring : options.ring.add [] = options.ring := by
    simp [Options.ring, Ring.add, Ring.empty]
  show (⟨_, _, options.ring.add [], Std.HashMap.ofList []⟩ : Pool) = _
  rw [hring, Std.HashMap.ofList_nil]

/-- What a list makes of a pool does not depend on the lists before it. -/
theorem set_foldl_set (p : Pool) (lists : List (List String)) (addrs : List String) :
    (lists.foldl set p).set addrs = p.set addrs := by
  induction lists generalizing p with
  | nil => rfl
  | cons list lists ih => exact ih (p.set list)

/-- **A pool is what the last list makes of it.** -/
theorem foldl_set (h : create self options = .ok p) (lists : List (List String)) :
    lists.foldl set p = p.set (lists.getLast?.getD []) := by
  rcases List.eq_nil_or_concat lists with rfl | ⟨before, last, rfl⟩
  · exact (set_nil_of_create h).symm
  · rw [List.concat_eq_append, List.foldl_append, List.getLast?_concat]
    exact set_foldl_set p before last

/-! ## What a pool answers -/

/-- All that can be asked of the pool of these nodes, at the node `own`. -/
structure Selects (own : String) (options : Options) (nodes : List String) (q : Pool) : Prop where
  /-- The peers are listed in order, and none of them twice. -/
  ascending : q.peers.Pairwise (· < ·)
  /-- They are the nodes. -/
  mem_peers : ∀ a, a ∈ q.peers ↔ a ∈ nodes
  /-- The ring is an empty one on which the nodes were placed. -/
  ring_eq : q.ring = (Ring.empty options.replicas (options.hash.getD Hash.crc32)).add nodes
  /-- Each node that is found on the ring has a client. -/
  known : ∀ key a, q.ring.owner? key = some a → q.clients[a]? = some ⟨a, options.basePath⟩
  /-- Nobody is asked for a key if there is no point on the ring, or if the key is the node's. -/
  pick?_eq_none : ∀ key, q.pick? key = none ↔ q.ring.isEmpty ∨ q.ring.owner? key = some own
  /-- Otherwise the owner is asked, at its address. -/
  pick?_eq_some : ∀ key c, q.pick? key = some c ↔ q.ring.owner? key = some c.baseUrl ∧
    c.baseUrl ≠ own ∧ c.basePath = options.basePath

theorem Selects.placed {own : String} {nodes : List String} {q : Pool}
    (h : Selects own options nodes q) :
    Ring.Placed options.replicas (options.hash.getD Hash.crc32) nodes q.ring :=
  h.ring_eq ▸ (Ring.Placed.empty _ _).add nodes

/-- The client of a node on the list is at the node's address. -/
theorem client_of_mem {addrs : List String} {a base : String} (h : a ∈ addrs.map normalizeAddress) :
    Client.create a base = ⟨a, base⟩ := by
  rw [Client.create, normalizeAddress_of_mem h]

/-- The pool of the nodes on a list answers as they say. -/
theorem selects_set (p : Pool) (addrs : List String) :
    Selects p.self p.options (addrs.map normalizeAddress) (p.set addrs) := by
  have placed := placed_set p addrs
  refine ⟨Text.pairwise_sortedDistinct _, ?_, rfl, ?_, ?_, ?_⟩
  · intro a
    rw [peers, Text.mem_sortedDistinct, Std.HashMap.mem_keys,
      Std.HashMap.mem_iff_isSome_getElem?, clients_set]
    by_cases ha : a ∈ addrs.map normalizeAddress <;> simp [ha]
  · -- The clients were made from the list that the ring was made from.
    intro key a howner
    have hmem := placed.mem_of_owner? howner
    rw [clients_set, if_pos hmem, client_of_mem hmem]
  · intro key
    rw [pick?_set_eq_none_iff]
    cases howner : (p.set addrs).ring.owner? key with
    | none =>
      have hempty : (p.set addrs).ring.isEmpty = true := by
        rw [← Bool.not_eq_false, placed.isEmpty_eq_false_iff key, howner]
        simp
      simp [hempty]
    | some a =>
      have hempty := (placed.isEmpty_eq_false_iff key).mpr ⟨a, howner⟩
      simp [hempty]
  · -- The owner of a key is on the list, so that its client is the one that the pool knows.
    rintro key ⟨url, base⟩
    constructor
    · intro hpick
      rw [pick?_set, Option.bind_eq_some_iff] at hpick
      obtain ⟨a, howner, hpick⟩ := hpick
      rw [client_of_mem (placed.mem_of_owner? howner)] at hpick
      by_cases hself : a = p.self
      · rw [if_pos hself] at hpick
        cases hpick
      · rw [if_neg hself] at hpick
        cases hpick
        exact ⟨howner, hself, rfl⟩
    · rintro ⟨howner, hself, rfl⟩
      have hmem := placed.mem_of_owner? howner
      rw [← client_of_mem hmem]
      exact (pick?_set_eq_some_iff (normalizeAddress_of_mem hmem)).mpr ⟨howner, hself⟩

/-- **Selection follows the last list of peers**, whatever lists were there before. A node at the
same address with the same last list, apart from trailing slashes, has the same pool. -/
theorem selects_lastNodes (h : create self options = .ok p) (lists : List (List String)) :
    Selects (normalizeAddress self) options (lastNodes lists) (lists.foldl set p) ∧
      ∀ self' lists', normalizeAddress self' = normalizeAddress self →
        lastNodes lists' = lastNodes lists →
        ∃ p', create self' options = .ok p' ∧ lists'.foldl set p' = lists.foldl set p := by
  obtain ⟨hpath, hp⟩ := create_eq_ok_iff.mp h
  refine ⟨?_, fun self' lists' hself hlast => ⟨p, ?_, ?_⟩⟩
  · have hselects := selects_set p (lists.getLast?.getD [])
    rw [← foldl_set h] at hselects
    rwa [hp] at hselects ⊢
  · rw [create_eq_ok_iff, hself]
    exact ⟨hpath, hp⟩
  · -- All that a list does to a pool, it does with the addresses without trailing slashes.
    rw [foldl_set h, foldl_set h]
    show (⟨_, _, p.options.ring.add (lastNodes lists'), .ofList ((lastNodes lists').map _)⟩ :
      Pool) = _
    rw [hlast]
    rfl

/-- Where three nodes stand whose labels are the numerals of their points. -/
theorem pointsOf_numerals : Ring.pointsOf 3 Hash.numeral "2" = [2, 12, 22] ∧
    Ring.pointsOf 3 Hash.numeral "4" = [4, 14, 24] ∧
    Ring.pointsOf 3 Hash.numeral "6" = [6, 16, 26] := by
  decide +kernel

/-- Trailing slashes, repetitions and an earlier list leave the pool of the nodes "6", "4" and "2".
The key "27" goes round to "2", and the key "5" is the node's own. -/
theorem selects_lastNodes_slashes :
    ∃ p, create "6//" { replicas := 3, hash := some Hash.numeral } = .ok p ∧
      ∃ q, q = [["8"], ["6", "4/", "2", "4"]].foldl set p ∧
        (∀ a, a ∈ q.peers ↔ a ∈ ["6", "4", "2", "4"]) ∧
        q.pick? "27" = some ⟨"2", PeerPath.defaultBase⟩ ∧ q.pick? "5" = none := by
  obtain ⟨p, hcreate⟩ : ∃ p, create "6//" { replicas := 3, hash := some Hash.numeral } = .ok p :=
    ⟨_, create_of_isBasePath (by decide)⟩
  have hnodes : lastNodes [["8"], ["6", "4/", "2", "4"]] = ["6", "4", "2", "4"] := by
    decide +kernel
  have hself : normalizeAddress "6//" = "6" := by decide +kernel
  have h := (selects_lastNodes hcreate [["8"], ["6", "4/", "2", "4"]]).1
  rw [hnodes, hself] at h
  have placed : Ring.Placed 3 Hash.numeral ["6", "4", "2", "4"] _ := h.placed
  have howner := placed.owner?_eq_some_iff_of_apart (by simp [Ring.Apart, pointsOf_numerals])
  refine ⟨p, hcreate, _, rfl, h.mem_peers, ?_, ?_⟩
  · have hkey : Hash.numeral (Text.utf8 "27") = 27 := by decide +kernel
    apply (h.pick?_eq_some _ _).mpr
    refine ⟨(howner _ _).mpr ⟨by simp, 2, ?_⟩, by simp, rfl⟩
    simp [pointsOf_numerals, hkey, Ring.Next]
  · have hkey : Hash.numeral (Text.utf8 "5") = 5 := by decide +kernel
    apply (h.pick?_eq_none _).mpr
    refine .inr ((howner _ _).mpr ⟨by simp, 6, ?_⟩)
    simp [pointsOf_numerals, hkey, Ring.Next]

end ReadThrough.Pool
