import ReadThrough.Peer.Pool
import ReadThrough.Proofs.Ring.Ownership
import ReadThrough.Proofs.Text.Ends

/-!
# Whom a pool picks

A pool knows the client of every node on its ring, because ring and clients come from one list. So
it picks the client for the owner of a key, unless the owner is the node itself.

## Main results

* `normalizeAddress_normalizeAddress`: trailing slashes are taken off once and for all
* `Pool.pick?_set`: the peer a pool picks
-/

namespace ReadThrough

theorem toList_normalizeAddress (addr : String) :
    (normalizeAddress addr).toList = addr.toList.rdropWhile (· == '/') :=
  String.toList_ofList

/-- Trailing slashes are taken off once and for all. -/
theorem normalizeAddress_normalizeAddress (addr : String) :
    normalizeAddress (normalizeAddress addr) = normalizeAddress addr := by
  apply String.toList_injective
  rw [toList_normalizeAddress, toList_normalizeAddress, List.rdropWhile_idempotent]

/-- An address that does not end in a slash has none to lose. -/
theorem normalizeAddress_eq_self {addr : String} (h : ∀ c ∈ addr.toList.getLast?, c ≠ '/') :
    normalizeAddress addr = addr := by
  apply String.toList_injective
  rw [toList_normalizeAddress]
  apply Text.rdropWhile_eq_self
  intro c hc
  simpa using h c hc

namespace Pool

variable {self key a : String} {options : Options} {p : Pool} {addrs : List String}

/-- A pool is created if its base path is one, and then it has no peers. -/
theorem create_eq_ok_iff : create self options = .ok p ↔
    isBasePath options.basePath ∧ p = ⟨normalizeAddress self, options, options.ring, ∅⟩ := by
  rw [create]
  by_cases h : isBasePath options.basePath
  · simp [h, eq_comm]
  · simp [h]

theorem create_of_isBasePath (h : isBasePath options.basePath) :
    create self options = .ok ⟨normalizeAddress self, options, options.ring, ∅⟩ :=
  create_eq_ok_iff.mpr ⟨h, rfl⟩

theorem isBasePath_of_create (h : create self options = .ok p) : isBasePath p.options.basePath := by
  obtain ⟨hpath, rfl⟩ := create_eq_ok_iff.mp h
  exact hpath

theorem options_of_create (h : create self options = .ok p) : p.options = options := by
  obtain ⟨-, rfl⟩ := create_eq_ok_iff.mp h
  rfl

/-- The ring of a pool is that of its peers. -/
theorem placed_set (p : Pool) (addrs : List String) :
    Ring.Placed p.options.replicas (p.options.hash.getD Hash.crc32) (addrs.map normalizeAddress)
      (p.set addrs).ring :=
  (Ring.Placed.empty _ _).add _

theorem getElem?_insertMany_map (addrs : List String) (f : String → Client)
    (m : Std.HashMap String Client) (a : String) :
    (m.insertMany (addrs.map fun b => (b, f b)))[a]? =
      if a ∈ addrs then some (f a) else m[a]? := by
  induction addrs generalizing m with
  | nil => simp
  | cons b addrs ih =>
    rw [List.map_cons, Std.HashMap.insertMany_cons, ih, Std.HashMap.getElem?_insert]
    by_cases ha : a ∈ addrs
    · simp [ha]
    · by_cases hb : b = a
      · simp [hb]
      · simp [ha, hb, Ne.symm hb]

/-- A pool knows the client of each of its peers. -/
theorem clients_set (p : Pool) (addrs : List String) (a : String) : (p.set addrs).clients[a]? =
    if a ∈ addrs.map normalizeAddress then some (Client.create a p.options.basePath) else none := by
  show (Std.HashMap.ofList ((addrs.map normalizeAddress).map fun addr =>
    (addr, Client.create addr p.options.basePath)))[a]? = _
  rw [Std.HashMap.ofList_eq_insertMany_empty, getElem?_insertMany_map]
  simp

/-- **A pool picks the owner of a key**, unless that is the node itself. -/
theorem pick?_set (p : Pool) (addrs : List String) (key : String) : (p.set addrs).pick? key =
    ((p.set addrs).ring.owner? key).bind fun a =>
      if a = p.self then none else some (Client.create a p.options.basePath) := by
  show (((p.set addrs).ring.owner? key).bind fun a =>
    if a = p.self then none else (p.set addrs).clients[a]?) = _
  cases h : (p.set addrs).ring.owner? key with
  | none => rfl
  | some a => rw [Option.bind_some, Option.bind_some, clients_set,
      if_pos ((placed_set p addrs).mem_of_owner? h)]

end Pool

end ReadThrough
