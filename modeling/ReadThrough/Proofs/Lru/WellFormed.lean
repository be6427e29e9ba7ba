import ReadThrough.Proofs.Lru.Layout

/-!
# Well-formed slots

The slots in use are met one after the other on the way from the newest to the oldest, and the way
back leads through the same slots; the index knows their keys and no others; and all other slots are
vacant. A slot that was emptied keeps its place in the array, with links that mean nothing any more,
so what is said of links is said of the slots that are met.

## Main definitions

* `Lru.row c`: the slots met on the way from the newest to the oldest
* `Lru.WellFormed c`: what holds of the slots, the index and the vacant slots of a cache

## Main results

* `Lru.Layout.row_eq`: the slots met are those in use
* `Lru.Layout.newer?_of_older?`, `Lru.Layout.older?_of_newer?`: each step can be taken back
* `Lru.Layout.wellFormed`: slots that are laid out as they should be are well formed
-/

namespace ReadThrough.Lru

variable {c : Lru} {i j : Nat} {e : Entry} {key : String} {chain l r : List (Nat × Entry)}

/-! ## The way through the slots -/

/-- The slot of the entry used last before that of slot `i`. -/
def older? (c : Lru) (i : Nat) : Option Nat := c.slots[i]?.bind (·.older)

/-- The slot of the entry used next after that of slot `i`. -/
def newer? (c : Lru) (i : Nat) : Option Nat := c.slots[i]?.bind (·.newer)

/-- The key of the entry in slot `i`. -/
def key? (c : Lru) (i : Nat) : Option String := c.slots[i]?.map (·.entry.key)

/-- The slots met from a slot on, on the way to the oldest, `n` of them at most. -/
def follow (c : Lru) : Nat → Option Nat → List Nat
  | 0, _ => []
  | _ + 1, none => []
  | n + 1, some i => i :: follow c n (c.older? i)

/-- The slots met on the way from the newest to the oldest. -/
def row (c : Lru) : List Nat := c.follow c.slots.size c.newest

/-- The slots of a cache, its index and its vacant slots belong together. -/
structure WellFormed (c : Lru) : Prop where
  /-- The way to the oldest slot meets no slot twice. -/
  row_nodup : c.row.Nodup
  /-- It begins at the newest slot, before which there is none, -/
  head?_row : c.row.head? = c.newest
  newer?_newest : ∀ i, c.newest = some i → c.newer? i = none
  /-- and it ends at the oldest slot, after which there is none. -/
  getLast?_row : c.row.getLast? = c.oldest
  older?_oldest : ∀ i, c.oldest = some i → c.older? i = none
  /-- The way back leads from each slot met to the one it was reached from, and to no other. -/
  older?_eq_some_iff : ∀ i ∈ c.row, ∀ j, c.older? i = some j ↔ j ∈ c.row ∧ c.newer? j = some i
  newer?_eq_some_iff : ∀ j ∈ c.row, ∀ i, c.newer? j = some i ↔ i ∈ c.row ∧ c.older? i = some j
  /-- There is neither a newest nor an oldest slot if and only if there are no entries. -/
  newest_eq_none_iff : c.newest = none ↔ c.isEmpty
  oldest_eq_none_iff : c.oldest = none ↔ c.isEmpty
  /-- The index finds the slots met by the keys of their entries, and nothing else. -/
  index_iff : ∀ key i, c.index[key]? = some i ↔ i ∈ c.row ∧ c.key? i = some key
  /-- No slot is vacant twice, -/
  free_nodup : c.free.Nodup
  /-- or vacant and in use; -/
  disjoint : List.Disjoint c.row c.free
  /-- and every slot is one or the other. -/
  mem_or_mem_iff : ∀ i, i ∈ c.row ∨ i ∈ c.free ↔ i < c.slots.size
  /-- So there are as many slots as there are entries and vacant slots. -/
  slots_size : c.slots.size = c.size + c.free.length

namespace Chained

theorem older?_eq (h : Chained c (l ++ (i, e) :: r)) : c.older? i = first r none := by
  rw [older?, h.slot]
  rfl

theorem newer?_eq (h : Chained c (l ++ (i, e) :: r)) : c.newer? i = last none l := by
  rw [newer?, h.slot]
  rfl

theorem key?_eq (h : Chained c (l ++ (i, e) :: r)) : c.key? i = some e.key := by
  rw [key?, h.slot]
  rfl

theorem follow_eq (h : Chained c (l ++ r)) {n : Nat} (hn : r.length ≤ n) :
    c.follow n (first r none) = r.map Prod.fst := by
  -- A slot that was met goes over to the part behind, so that the rest is a part of the row again.
  induction r generalizing l n with
  | nil => cases n <;> rfl
  | cons x r ih =>
    obtain ⟨i, e⟩ := x
    cases n with
    | zero => exact absurd hn (Nat.not_succ_le_zero _)
    | succ n =>
      have holder := h.older?_eq
      rw [List.append_cons] at h
      rw [first, follow, holder, ih h (Nat.le_of_succ_le_succ hn), List.map_cons]

end Chained

namespace Layout

/-- **The way from the newest slot to the oldest meets the slots in use**, in order. -/
theorem row_eq (h : Layout c chain) : c.row = chain.map Prod.fst := by
  rw [row, h.chained.newest]
  exact h.chained.follow_eq (l := []) h.length_le

/-- A slot that is met parts the row. -/
theorem exists_split_of_mem_row (h : Layout c chain) (hi : i ∈ c.row) :
    ∃ l e r, chain = l ++ (i, e) :: r := by
  rw [h.row_eq] at hi
  obtain ⟨⟨i, e⟩, he, rfl⟩ := List.mem_map.mp hi
  obtain ⟨l, r, rfl⟩ := List.append_of_mem he
  exact ⟨l, e, r, rfl⟩

/-- A step towards the oldest slot can be taken back. -/
theorem newer?_of_older? (h : Layout c chain) (hi : i ∈ c.row) (hj : c.older? i = some j) :
    j ∈ c.row ∧ c.newer? j = some i := by
  obtain ⟨l, e, r, rfl⟩ := h.exists_split_of_mem_row hi
  rw [h.chained.older?_eq] at hj
  cases r with
  | nil => cases hj
  | cons x r =>
    obtain rfl := Option.some.inj hj
    rw [List.append_cons] at h
    refine ⟨by simp [h.row_eq], ?_⟩
    rw [h.chained.newer?_eq, last_append]
    rfl

/-- A step towards the newest slot can be taken back. -/
theorem older?_of_newer? (h : Layout c chain) (hj : j ∈ c.row) (hi : c.newer? j = some i) :
    i ∈ c.row ∧ c.older? i = some j := by
  obtain ⟨l, e, r, rfl⟩ := h.exists_split_of_mem_row hj
  rw [h.chained.newer?_eq] at hi
  rcases List.eq_nil_or_concat l with rfl | ⟨l, x, rfl⟩
  · cases hi
  · rw [List.concat_eq_append] at h hi
    rw [last_append] at hi
    obtain rfl : x.1 = i := Option.some.inj hi
    rw [← List.append_cons] at h
    refine ⟨by simp [h.row_eq], ?_⟩
    rw [h.chained.older?_eq]
    rfl

theorem getLast?_row (h : Layout c chain) : c.row.getLast? = c.oldest := by
  rw [h.row_eq]
  rcases List.eq_nil_or_concat chain with rfl | ⟨l, x, rfl⟩
  · exact h.chained.oldest.symm
  · rw [List.concat_eq_append] at h ⊢
    rw [List.map_append, List.map_singleton, List.getLast?_concat, h.chained.oldest_concat]

theorem head?_row (h : Layout c chain) : c.row.head? = c.newest := by
  rw [h.row_eq, h.chained.newest]
  cases chain <;> rfl

theorem newer?_newest (h : Layout c chain) (hi : c.newest = some i) : c.newer? i = none := by
  rw [h.chained.newest] at hi
  cases chain with
  | nil => cases hi
  | cons x chain =>
    obtain rfl := Option.some.inj hi
    exact h.chained.newer?_eq (l := [])

theorem older?_oldest (h : Layout c chain) (hi : c.oldest = some i) : c.older? i = none := by
  rcases List.eq_nil_or_concat chain with rfl | ⟨l, x, rfl⟩
  · cases h.chained.oldest.symm.trans hi
  · rw [List.concat_eq_append] at h
    obtain rfl : x.1 = i := Option.some.inj (h.chained.oldest_concat.symm.trans hi)
    exact h.chained.older?_eq

theorem isEmpty_iff (h : Layout c chain) : c.isEmpty ↔ c.row = [] := by
  rw [Lru.isEmpty, Std.HashMap.isEmpty_eq_size_eq_zero, h.size_eq, h.row_eq]
  simp

theorem index_iff_row (h : Layout c chain) :
    c.index[key]? = some i ↔ i ∈ c.row ∧ c.key? i = some key := by
  rw [h.index_iff]
  constructor
  · rintro ⟨e, he, rfl⟩
    obtain ⟨l, r, rfl⟩ := List.append_of_mem he
    exact ⟨by simp [h.row_eq], h.chained.key?_eq⟩
  · rintro ⟨hi, hk⟩
    obtain ⟨l, e, r, rfl⟩ := h.exists_split_of_mem_row hi
    rw [h.chained.key?_eq] at hk
    exact ⟨e, by simp, Option.some.inj hk⟩

/-- **Slots that are laid out as they should be are well formed.** -/
theorem wellFormed (h : Layout c chain) : WellFormed c := by
  have hplaces := h.places
  rw [← h.row_eq] at hplaces
  have hnodup : (c.row ++ c.free).Nodup := hplaces.nodup_iff.mpr List.nodup_range
  rw [List.nodup_append'] at hnodup
  obtain ⟨hrow, hfree, hdisjoint⟩ := hnodup
  exact {
    row_nodup := hrow
    head?_row := h.head?_row
    newer?_newest := fun i => h.newer?_newest
    getLast?_row := h.getLast?_row
    older?_oldest := fun i => h.older?_oldest
    older?_eq_some_iff := fun i hi j =>
      ⟨h.newer?_of_older? hi, fun hj => (h.older?_of_newer? hj.1 hj.2).2⟩
    newer?_eq_some_iff := fun j hj i =>
      ⟨h.older?_of_newer? hj, fun hi => (h.newer?_of_older? hi.1 hi.2).2⟩
    newest_eq_none_iff := by rw [← h.head?_row, List.head?_eq_none_iff, h.isEmpty_iff]
    oldest_eq_none_iff := by rw [← h.getLast?_row, List.getLast?_eq_none_iff, h.isEmpty_iff]
    index_iff := fun key i => h.index_iff_row
    free_nodup := hfree
    disjoint := hdisjoint
    mem_or_mem_iff := fun i => by rw [← List.mem_append, hplaces.mem_iff, List.mem_range]
    slots_size := by
      have hlength := hplaces.length_eq
      rw [List.length_append, List.length_range, h.row_eq, List.length_map] at hlength
      rw [Lru.size, h.size_eq, hlength] }

end Layout

end ReadThrough.Lru
