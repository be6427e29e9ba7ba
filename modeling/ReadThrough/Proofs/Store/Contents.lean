import ReadThrough.Proofs.Lru.Layout
import ReadThrough.Store.Basic

/-!
# What a store answers

A lookup changes what comes next in line, but never what is answered; an insertion changes the
answer for its own key and for the keys it evicts, and for no other.

## Main definitions

* `Store.find? s key`: the value a lookup of `key` would find
* `Store.Sound s`: the entries of the store are in order

## Main results

* `Store.Sound.find?_get`: a lookup changes no answer
* `Store.Sound.find?_add`: an insertion changes few of them
* `Store.Sound.evicted_or_isSome_add`: a value is there until it is evicted
* `Store.Sound.evicted_entry`, `Store.Sound.evicted_nodup`: what is evicted was there
* `Store.Sound.size_get`, `Store.Sound.size_add`, `Store.Sound.size_add_of_isSome`: how many
  entries there are then
-/

namespace ReadThrough.Store

open Recency (lookup)

/-- The value a lookup of `key` would find. -/
def find? (s : Store) (key : String) : Option Value := (s.get key).2

/-- The entries of the store are in order. -/
def Sound (s : Store) : Prop := ∃ es, s.lru.Shows es

theorem lru_get (s : Store) (key : String) : (s.get key).1.lru = (s.lru.get key).1 := rfl

theorem lru_add (s : Store) (key : String) (value : Value) :
    (s.add key value).1.lru = (s.lru.add key value).1 := rfl

/-- What a lookup does not find, the next one does not find either, in whatever state the store
is. -/
theorem find?_get_of_none {s : Store} {key : String} (h : s.find? key = none) :
    (s.get key).1.find? key = none := by
  have hlookup : (s.lru.get key).2 = none := h
  show ((s.lru.get key).1.get key).2 = none
  cases hi : s.lru.index[key]? with
  | none =>
    have hsame : (s.lru.get key).1 = s.lru := by simp only [Lru.get, hi]
    rw [hsame]
    exact hlookup
  | some i =>
    -- The index leads to no slot, and a lookup makes no slots.
    have htouch : (s.lru.get key).1 = s.lru.touch i := by simp only [Lru.get, hi]
    have hslot : s.lru.slots[i]? = none := by
      simpa only [Lru.get, hi, Option.map_eq_none_iff] using hlookup
    have hslot' : (s.lru.touch i).slots[i]? = none := by
      rw [Array.getElem?_eq_none_iff, Lru.alike_touch.size, ← Array.getElem?_eq_none_iff]
      exact hslot
    have hi' : (s.lru.touch i).index[key]? = some i := by rw [Lru.alike_touch.index, hi]
    rw [htouch]
    simp only [Lru.get, hi', hslot', Option.map_none]

namespace Sound

variable {s : Store} {key k : String} {value : Value} {es : List Entry}

theorem empty (budget : Nat) : (Store.empty budget).Sound := ⟨[], .empty budget⟩

theorem find?_eq (h : s.lru.Shows es) : s.find? key = lookup es key := (h.get key).1

theorem find?_empty (budget : Nat) : (Store.empty budget).find? key = none := by
  have h : (Store.empty budget).lru.Shows [] := .empty budget
  exact find?_eq h

theorem get (h : s.Sound) (key : String) : (s.get key).1.Sound := by
  obtain ⟨es, h⟩ := h
  exact ⟨_, (h.get key).2.1⟩

theorem add (h : s.Sound) (key : String) (value : Value) : (s.add key value).1.Sound := by
  obtain ⟨es, h⟩ := h
  exact ⟨_, (h.add key value).1⟩

/-- **A lookup changes no answer.** -/
theorem find?_get (h : s.Sound) : (s.get key).1.find? k = s.find? k := by
  obtain ⟨es, h⟩ := h
  have hget : (s.get key).1.lru.Shows (Recency.touch es key) := (h.get key).2.1
  rw [find?_eq hget, find?_eq h, Recency.lookup_touch]

/-- A lookup that finds nothing is counted, and changes nothing else. -/
theorem get_of_none (h : s.Sound) (hk : s.find? key = none) :
    (s.get key).1 = { s with counts := s.counts.recordGet false } := by
  obtain ⟨es, h⟩ := h
  have hsame : (s.lru.get key).1 = s.lru := by
    rw [find?_eq h] at hk
    exact h.get_of_none hk
  have hnone : (s.lru.get key).2 = none := hk
  show Store.mk (s.lru.get key).1 (s.counts.recordGet (s.lru.get key).2.isSome) = _
  rw [hsame, hnone]
  rfl

/-- **An insertion changes the answer for its key and for the keys it evicts.** -/
theorem find?_add (h : s.Sound) : (s.add key value).1.find? k =
    if k ∈ (s.add key value).2.map (·.key) then none
    else if k = key then some value
    else s.find? k := by
  obtain ⟨es, h⟩ := h
  obtain ⟨hadd, hout, -⟩ := h.add key value
  have hs : (s.add key value).1.lru.Shows (Recency.add s.lru.budget es key value).1 := hadd
  have ho : (s.add key value).2 = (Recency.add s.lru.budget es key value).2 := hout
  rw [find?_eq hs, find?_eq h, ho, Recency.lookup_add h.keys_nodup]

/-- An insertion takes no value away but by an eviction. -/
theorem evicted_or_isSome_add (h : s.Sound) (hk : k = key ∨ (s.find? k).isSome) :
    k ∈ (s.add key value).2.map (·.key) ∨ ((s.add key value).1.find? k).isSome := by
  by_cases hout : k ∈ (s.add key value).2.map (·.key)
  · exact .inl hout
  · right
    rw [h.find?_add, if_neg hout]
    by_cases hkey : k = key
    · rw [if_pos hkey]
      rfl
    · rw [if_neg hkey]
      exact hk.resolve_left hkey

theorem size_eq (h : s.lru.Shows es) : s.size = es.length := h.size_eq

/-- A lookup moves entries about, and none goes. -/
theorem size_get (h : s.Sound) : (s.get key).1.size = s.size := by
  obtain ⟨es, h⟩ := h
  have hget : (s.get key).1.lru.Shows (Recency.touch es key) := (h.get key).2.1
  rw [size_eq hget, size_eq h]
  exact (Recency.touch_perm h.keys_nodup key).length_eq

/-- What is there after an insertion, and what it evicts, are as many entries as the new one and
those for other keys. -/
theorem size_add_length (h : s.lru.Shows es) (key : String) (value : Value) :
    (s.add key value).1.size + (s.add key value).2.length = (Recency.put es key value).length := by
  obtain ⟨hadd, hout, -⟩ := h.add key value
  have hs : (s.add key value).1.lru.Shows (Recency.add s.lru.budget es key value).1 := hadd
  have ho : (s.add key value).2 = (Recency.add s.lru.budget es key value).2 := hout
  rw [size_eq hs, ho, Recency.length_add]

/-- A key that had no value takes one place more; what is evicted gives its place up. -/
theorem size_add (h : s.Sound) (hk : s.find? key = none) (value : Value) :
    (s.add key value).1.size + (s.add key value).2.length = s.size + 1 := by
  obtain ⟨es, h⟩ := h
  rw [find?_eq h] at hk
  rw [size_add_length h, Recency.length_put_of_none hk, size_eq h]

/-- A key that had a value keeps its place, until it is evicted. -/
theorem size_add_of_isSome (h : s.Sound) (hk : (s.find? key).isSome) (value : Value) :
    (s.add key value).1.size + (s.add key value).2.length = s.size := by
  obtain ⟨es, h⟩ := h
  obtain ⟨v, hv⟩ := Option.isSome_iff_exists.mp hk
  rw [find?_eq h] at hv
  rw [size_add_length h, Recency.length_put_of_some h.keys_nodup hv, size_eq h]

/-- No key is evicted twice by one insertion. -/
theorem evicted_nodup (h : s.Sound) : ((s.add key value).2.map (·.key)).Nodup := by
  obtain ⟨es, h⟩ := h
  have ho : (s.add key value).2 = (Recency.add s.lru.budget es key value).2 := (h.add key value).2.1
  have hp := Recency.keys_nodup_put h.keys_nodup key value
  rw [← Recency.add_append s.lru.budget, List.map_append, List.nodup_append'] at hp
  -- The evicted entries are the last ones after the insertion, in reverse.
  have hr := hp.2.1
  rw [List.map_reverse, List.nodup_reverse] at hr
  rw [ho]
  exact hr

/-- What an insertion evicts is its own entry, or was there for another key. -/
theorem evicted_entry (h : s.Sound) {e : Entry} (he : e ∈ (s.add key value).2) :
    e = ⟨key, value⟩ ∨ e.key ≠ key ∧ s.find? e.key = some e.value := by
  obtain ⟨es, h⟩ := h
  have ho : (s.add key value).2 = (Recency.add s.lru.budget es key value).2 := (h.add key value).2.1
  rw [ho] at he
  have hput : e ∈ Recency.put es key value := by
    rw [← Recency.add_append s.lru.budget]
    exact List.mem_append_right _ (List.mem_reverse.mpr he)
  -- In front is the entry inserted, and the others were there before.
  rcases List.mem_cons.mp hput with rfl | hes
  · exact .inl rfl
  · obtain ⟨hes, hne⟩ := List.mem_filter.mp hes
    refine .inr ⟨of_decide_eq_true hne, ?_⟩
    rw [find?_eq h, Recency.lookup_of_mem h.keys_nodup hes]

/-- What an insertion evicts was there, or is its own entry. -/
theorem evicted_cases (h : s.Sound) (hk : k ∈ (s.add key value).2.map (·.key)) :
    k = key ∨ (s.find? k).isSome := by
  obtain ⟨e, he, rfl⟩ := List.mem_map.mp hk
  rcases h.evicted_entry he with rfl | ⟨-, hfind⟩
  · exact .inl rfl
  · rw [hfind]
    exact .inr rfl

end Sound

end ReadThrough.Store
