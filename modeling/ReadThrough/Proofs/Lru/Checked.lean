import Mathlib.Data.Fintype.Option
import ReadThrough.Lru.Checked
import ReadThrough.Proofs.Lru.Layout
import ReadThrough.Text.Utf8

/-!
# Nothing stops the machine

Where the slots are laid out as they should be, a machine that checks every step does what the
operations on a cache do. Each slot it reads or writes is in use or vacant, and so there is one; the
bytes it takes off are those of an entry, and so they were charged for; and what exceeds the budget
is there to be evicted. What is added has to be a word still, and this bounds the slots as well:
different keys cost two bytes each, but for a few short ones.

## Main results

* `Recency.two_mul_length_le`: twice the entries are hardly more than their bytes
* `Lru.Chained.checked_unlink`, `Lru.Chained.checked_pushNewest`, `Lru.Chained.checked_touch`: links
* `Lru.Layout.checked_get`, `Lru.Layout.checked_put`, `Lru.Layout.checked_shrink`: the parts of an
  operation
* `Lru.Layout.checked_add`: an insertion
-/

namespace ReadThrough

/-! ## How many entries there can be -/

namespace Recency

/-- Few keys are shorter than two bytes: the empty one, and at most one for each byte. -/
theorem length_le_of_short {keys : List String} (hn : keys.Nodup)
    (hs : ∀ key ∈ keys, key.utf8ByteSize < 2) : keys.length ≤ 257 := by
  -- A short key is told by its byte, or by having none.
  have first : ∀ key ∈ keys, Text.utf8 key = (Text.utf8 key).head?.toList := by
    intro key hkey
    have hlength : (Text.utf8 key).length < 2 := hs key hkey
    generalize Text.utf8 key = bytes at hlength ⊢
    rcases bytes with _ | ⟨b, _ | ⟨b', bs⟩⟩
    · rfl
    · rfl
    · simp only [List.length_cons] at hlength
      omega
  let byte? (key : String) : Option (Fin 256) := (Text.utf8 key).head?.map (·.toFin)
  have told : ∀ k ∈ keys, ∀ k' ∈ keys, byte? k = byte? k' → k = k' := by
    intro k hk k' hk' he
    have hhead : (Text.utf8 k).head? = (Text.utf8 k').head? :=
      Option.map_injective (fun _ _ => UInt8.toFin_inj.mp) he
    apply Text.utf8_injective
    rw [first k hk, first k' hk', hhead]
  simpa using (hn.map_on told).length_le_card

/-- An entry costs two bytes, unless its key is short. -/
theorem two_mul_length_le_add (es : List Entry) :
    2 * es.length ≤ weight es + 2 * (es.filter (·.key.utf8ByteSize < 2)).length := by
  induction es with
  | nil => exact Nat.zero_le _
  | cons e es ih =>
    have hw : weight (e :: es) = e.key.utf8ByteSize + e.value.size + weight es := rfl
    rw [hw, List.length_cons, List.filter_cons]
    split
    · rw [List.length_cons]
      omega
    · rename_i hlong
      have hlong : ¬ e.key.utf8ByteSize < 2 := by simpa using hlong
      omega

/-- **Entries with different keys cost two bytes each**, but for a few with short keys. -/
theorem two_mul_length_le {es : List Entry} (hn : (es.map (·.key)).Nodup) :
    2 * es.length ≤ weight es + 514 := by
  have hshort : ((es.filter (·.key.utf8ByteSize < 2)).map (·.key)).length ≤ 257 := by
    refine length_le_of_short (hn.sublist (List.filter_sublist.map _)) fun key hkey => ?_
    obtain ⟨e, he, rfl⟩ := List.mem_map.mp hkey
    simpa using (List.mem_filter.mp he).2
  rw [List.length_map] at hshort
  have hsum := two_mul_length_le_add es
  omega

end Recency

namespace Lru

open Recency (weight)

variable {c : Lru} {i : Nat} {e : Entry} {o x : Option Nat} {key : String} {value : Value}
  {l r chain : List (Nat × Entry)}

/-! ## Words and slots -/

theorem ok_bind {ε α β : Type} (a : α) (f : α → Except ε β) :
    (Except.ok a >>= f : Except ε β) = f a := rfl

theorem plus_eq {a b : Nat} (h : a + b < words) : Checked.plus a b = .ok (a + b) := if_pos h

theorem minus_eq {a b : Nat} (h : b ≤ a) : Checked.minus a b = .ok (a - b) := if_pos h

theorem read_eq {s : Slot} (h : c.slots[i]? = some s) : Checked.read c i = .ok s := by
  rw [Checked.read, h]

theorem modify_eq {f : Slot → Slot} (h : i < c.slots.size) :
    Checked.modify c i f = .ok { c with slots := c.slots.modify i f } := if_pos h

theorem setOlder_eq (h : ∀ i, o = some i → i < c.slots.size) :
    Checked.setOlder c o x = .ok (c.setOlder o x) := by
  cases o with
  | none => rfl
  | some i => exact modify_eq (h i rfl)

theorem setNewer_eq (h : ∀ i, o = some i → i < c.slots.size) :
    Checked.setNewer c o x = .ok (c.setNewer o x) := by
  cases o with
  | none => rfl
  | some i => exact modify_eq (h i rfl)

/-! ## Links -/

namespace Chained

theorem lt_size (h : Chained c chain) (hi : i ∈ chain.map Prod.fst) : i < c.slots.size := by
  obtain ⟨⟨i, e⟩, he, rfl⟩ := List.mem_map.mp hi
  obtain ⟨l, r, rfl⟩ := List.append_of_mem he
  exact (Array.getElem?_eq_some_iff.mp h.slot).1

/-- What comes before a part of the row is a slot, or nothing; -/
theorem last_lt (h : Chained c (l ++ r)) (hl : last none l = some i) : i < c.slots.size := by
  rcases last_cases none l with ⟨-, he⟩ | ⟨j, hj, he⟩
  · cases he.symm.trans hl
  · obtain rfl := Option.some.inj (he.symm.trans hl)
    exact h.lt_size (by simp [hj])

/-- and so is what a part of the row begins with. -/
theorem first_lt (h : Chained c (l ++ r)) (hr : first r none = some i) : i < c.slots.size := by
  rcases first_cases r none with ⟨-, he⟩ | ⟨j, hj, he⟩
  · cases he.symm.trans hr
  · obtain rfl := Option.some.inj (he.symm.trans hr)
    exact h.lt_size (by simp [hj])

theorem checked_unlink (h : Chained c (l ++ (i, e) :: r)) :
    Checked.unlink c i = .ok (c.unlink i) := by
  have hl : ∀ j, last none l = some j → j < c.slots.size := fun j => h.last_lt
  have hr : ∀ j, first r none = some j → j < c.slots.size := by
    rw [List.append_cons] at h
    exact fun j => h.first_lt
  rw [Checked.unlink, read_eq h.slot, ok_bind, setOlder_eq hl, ok_bind, setNewer_eq, Lru.unlink,
    h.slot]
  simpa using hr

theorem checked_pushNewest (h : Chained c chain) (hi : i < c.slots.size) :
    Checked.pushNewest c i = .ok (c.pushNewest i) := by
  have hfront : ∀ j, c.newest = some j → j < c.slots.size := by
    rw [h.newest]
    exact fun j => h.first_lt (l := [])
  rw [Checked.pushNewest, modify_eq hi, ok_bind, setNewer_eq, ok_bind]
  · rfl
  · simpa using hfront

theorem checked_touch (h : Chained c (l ++ (i, e) :: r)) : Checked.touch c i = .ok (c.touch i) := by
  unfold Checked.touch Lru.touch
  split
  · rfl
  · have hi : i < (c.unlink i).slots.size := by
      rw [alike_unlink.size]
      exact h.lt_size (by simp)
    rw [h.checked_unlink, ok_bind, h.unlink.checked_pushNewest hi]

end Chained

/-! ## Lookups and insertions -/

/-- The bytes that an insertion brings in: those of the value, and those of the key if it is new. -/
def incoming (c : Lru) (key : String) (value : Value) : Nat :=
  match c.index[key]? with
  | some _ => value.size
  | none => key.utf8ByteSize + value.size

namespace Layout

theorem checked_get (h : Layout c chain) (key : String) :
    Checked.get c key = .ok (c.get key) := by
  unfold Checked.get Lru.get
  cases hi : c.index[key]? with
  | none => rfl
  | some i =>
    obtain ⟨l, e, r, rfl, -⟩ := h.exists_split hi
    -- The entry of the slot is the same before and after it has moved to the front.
    have hfront := h.move.chained.slot (l := [])
    simp only [h.chained.checked_touch, ok_bind, read_eq hfront, h.chained.slot]
    rfl

theorem checked_oldestKey? (h : Layout c chain) : Checked.oldestKey? c = .ok c.oldestKey? := by
  unfold Checked.oldestKey? Lru.oldestKey?
  rcases List.eq_nil_or_concat chain with rfl | ⟨l, ⟨i, e⟩, rfl⟩
  · rw [h.chained.oldest]
    rfl
  · rw [List.concat_eq_append] at h
    simp only [h.chained.oldest_concat]
    rw [read_eq h.chained.slot, Option.bind_some, h.chained.slot]
    rfl

/-- There is a number for another slot if all slots are in use and their bytes are a word. -/
theorem size_lt (h : Layout c chain) (hfree : c.free = []) (hw : c.used < words) :
    c.slots.size + 1 < words := by
  have hplaces := h.places.length_eq
  have hbytes := Recency.two_mul_length_le h.keys_nodup
  rw [hfree, List.append_nil, List.length_map, List.length_range] at hplaces
  rw [List.length_map, ← h.used_eq] at hbytes
  simp only [words, UInt64.size] at hw ⊢
  omega

theorem lt_of_mem_free (h : Layout c chain) (hi : i ∈ c.free) : i < c.slots.size :=
  List.mem_range.mp (h.places.mem_iff.mp (List.mem_append_right _ hi))

theorem checked_place (hfree : ∀ i ∈ c.free, i < c.slots.size)
    (hsize : c.free = [] → c.slots.size + 1 < words) :
    Checked.place c e = .ok (c.place e) := by
  unfold Checked.place Lru.place
  cases hf : c.free with
  | nil => simp only [if_pos (hsize hf)]
  | cons i free =>
    have hi : i < ({ c with free } : Lru).slots.size := hfree i (by simp [hf])
    simp only [modify_eq hi]
    rfl

/-- Every entry is charged for. -/
theorem cost_le (h : Layout c (l ++ (i, e) :: r)) : e.cost ≤ c.used := by
  have hu := h.used_eq
  simp only [weight, List.map_append, List.map_cons, List.sum_append, List.sum_cons] at hu
  omega

/-- **The last entry leaves**, and what it is charged for can be taken off. -/
theorem checked_evict? (h : Layout c (l ++ [(i, e)])) (hw : c.used < words) :
    Checked.evict? c = .ok c.evict? := by
  have hcost : e.cost ≤ c.used := h.cost_le
  have hplus : Checked.plus e.key.utf8ByteSize e.value.size = .ok e.cost :=
    plus_eq (Nat.lt_of_le_of_lt hcost hw)
  -- The slot is read after it has left the row, but its entry is still there.
  have hslot := h.chained.slot_unlink
  have hi : i < (c.unlink i).slots.size := (Array.getElem?_eq_some_iff.mp hslot).1
  have hminus : Checked.minus (c.unlink i).used e.cost = .ok ((c.unlink i).used - e.cost) :=
    minus_eq (hcost.trans_eq alike_unlink.used.symm)
  unfold Checked.evict? Lru.evict?
  simp only [h.chained.oldest_concat, h.chained.checked_unlink, ok_bind, read_eq hslot,
    modify_eq hi, hplus, hminus, Option.bind_some, h.chained.slot, Option.map_some]
  rfl

theorem checked_shrink (h : Layout c chain) {n : Nat} (hn : chain.length ≤ n)
    (hw : c.used < words) : Checked.shrink n c = .ok (c.shrink n) := by
  -- Every entry that leaves takes one unit of fuel, and there is one for each.
  induction n generalizing c chain with
  | zero =>
    obtain rfl := List.eq_nil_of_length_eq_zero (Nat.le_zero.mp hn)
    have hu : c.used ≤ c.budget := by
      rw [h.used_eq]
      exact Nat.zero_le _
    rw [Checked.shrink, if_pos hu]
    rfl
  | succ n ih =>
    rw [Checked.shrink, Lru.shrink]
    by_cases hu : c.used ≤ c.budget
    · rw [if_pos hu, if_pos hu]
    · rw [if_neg hu, if_neg hu]
      rcases List.eq_nil_or_concat chain with rfl | ⟨l, ⟨i, e⟩, rfl⟩
      · -- Without entries nothing is charged for.
        exact absurd (h.used_eq ▸ Nat.zero_le _) hu
      · rw [List.concat_eq_append] at h hn
        obtain ⟨c', he, hl, hb⟩ := h.evict
        rw [List.length_append, List.length_singleton] at hn
        have hless : c'.used ≤ c.used := by
          rw [hl.used_eq, h.used_eq]
          simp [weight]
        have htail := ih hl (Nat.le_of_succ_le_succ hn) (Nat.lt_of_le_of_lt hless hw)
        simp only [h.checked_evict? hw, ok_bind, he, htail]
        rfl

/-- A new entry is placed in a vacant slot, or in a new one that has a number. -/
theorem checked_insert (h : Layout c chain) (hkey : c.index[key]? = none)
    (hw : c.used + (key.utf8ByteSize + value.size) < words) :
    Checked.put c key value = .ok (c.put key value) := by
  have hentry : key.utf8ByteSize + value.size < words := by omega
  have hused : c.used < words := by omega
  let charged : Lru := { c with used := c.used + (key.utf8ByteSize + value.size) }
  have hcharged : Chained charged chain := h.chained.congr (fun _ _ => rfl) rfl rfl
  have placed : Checked.place charged ⟨key, value⟩ = .ok (charged.place ⟨key, value⟩) :=
    checked_place (fun _ hi => h.lt_of_mem_free hi) fun hf => h.size_lt hf hused
  obtain ⟨⟨c', i⟩, hplace⟩ : ∃ p, charged.place ⟨key, value⟩ = p := ⟨_, rfl⟩
  obtain ⟨hc, hslot, -⟩ := place hcharged h.places hplace
  have indexed : Chained { c' with index := c'.index.insert key i } chain :=
    hc.congr (fun _ _ => rfl) rfl rfl
  have hi : i < c'.slots.size := (Array.getElem?_eq_some_iff.mp hslot).1
  simp only [charged] at placed hplace
  unfold Checked.put Lru.put
  simp only [hkey, plus_eq hentry, plus_eq hw, ok_bind, placed, hplace]
  exact indexed.checked_pushNewest hi

/-- A value is replaced in its slot, and what it is charged for can be taken off. -/
theorem checked_replace (h : Layout c chain) (hkey : c.index[key]? = some i)
    (hw : c.used + value.size < words) : Checked.put c key value = .ok (c.put key value) := by
  obtain ⟨l, e, r, rfl, rfl⟩ := h.exists_split hkey
  have hformer : e.value.size ≤ c.used + value.size :=
    calc e.value.size ≤ e.cost := Nat.le_add_left _ _
      _ ≤ c.used := h.cost_le
      _ ≤ c.used + value.size := Nat.le_add_right _ _
  have hi : i < c.slots.size := h.chained.lt_size (by simp)
  unfold Checked.put Lru.put
  simp only [hkey, read_eq h.chained.slot, plus_eq hw, minus_eq hformer, ok_bind, h.chained.slot,
    Option.map_some, Option.getD_some]
  rw [modify_eq (by exact hi), ok_bind]
  exact h.replace.chained.checked_touch

theorem checked_put (h : Layout c chain) (hw : c.used + c.incoming key value < words) :
    Checked.put c key value = .ok (c.put key value) := by
  unfold incoming at hw
  cases hi : c.index[key]? with
  | none => exact h.checked_insert hi (by simpa only [hi] using hw)
  | some i => exact h.checked_replace hi (by simpa only [hi] using hw)

theorem used_put_le (h : Layout c chain) (key : String) (value : Value) :
    (c.put key value).used ≤ c.used + c.incoming key value := by
  unfold incoming
  cases hi : c.index[key]? with
  | none =>
    obtain ⟨i, hput, -⟩ := h.insert hi value
    rw [hput.used_eq, h.used_eq]
    simp only [weight, List.map_cons, List.sum_cons, Entry.cost]
    omega
  | some i =>
    simp only [Lru.put, hi]
    rw [alike_touch.used]
    exact Nat.sub_le _ _

/-- **Nothing stops an insertion**, as long as all bytes held during it are a word. -/
theorem checked_add (h : Layout c chain) (hw : c.used + c.incoming key value < words) :
    Checked.add c key value = .ok (c.add key value) := by
  have hshows : Shows c (chain.map Prod.snd) := ⟨chain, h, rfl⟩
  obtain ⟨⟨chain', hput, -⟩, -⟩ := hshows.put key value
  have hused : (c.put key value).used < words := Nat.lt_of_le_of_lt (h.used_put_le key value) hw
  rw [Checked.add, h.checked_put hw, ok_bind, hput.checked_shrink hput.length_le hused]
  rfl

end Layout

end Lru

end ReadThrough
