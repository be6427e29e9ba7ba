import Mathlib.Data.List.Perm.Basic
import ReadThrough.Proofs.Lru.Links
import ReadThrough.Proofs.Lru.Recency

/-!
# The layout of a cache

In every state the slots in use and the vacant ones are all the slots, each once, the index finds
the slots in use by their keys, and the bytes charged for are those of the entries. So a lookup and
an insertion do to the slots what they do to a list of entries in order of use.

## Main definitions

* `Lru.Layout c chain`: the slots of `c` hold the entries of `chain`
* `Lru.Shows c es`: the entries of `c` are `es`, the most recently used in front
* `Lru.entries c`: the entries met on the way from the newest slot to the oldest

## Main results

* `Lru.Layout.move`, `Lru.Layout.replace`, `Lru.Layout.insert`, `Lru.Layout.evict`: what the parts
  of an operation do to the slots
* `Lru.Shows.get`, `Lru.Shows.add`: lookups and insertions in terms of the entries
* `Lru.Shows.entries_eq`: the entries are met in their order, and all of them
-/

namespace ReadThrough.Lru

open Recency (lookup without weight shed)

/-- The slots of `c` hold the entries of `chain`, from the newest to the oldest. -/
structure Layout (c : Lru) (chain : List (Nat × Entry)) : Prop where
  /-- The slots in use are linked in order. -/
  chained : Chained c chain
  /-- The slots in use and the vacant slots are all the slots, each once. -/
  places : (chain.map Prod.fst ++ c.free).Perm (List.range c.slots.size)
  /-- No key has two entries. -/
  keys_nodup : ((chain.map Prod.snd).map (·.key)).Nodup
  /-- The index finds the slot of a key. -/
  index_iff : ∀ key i, c.index[key]? = some i ↔ ∃ e, (i, e) ∈ chain ∧ e.key = key
  /-- The index knows no other keys. -/
  size_eq : c.index.size = chain.length
  /-- What is charged for is what is there. -/
  used_eq : c.used = weight (chain.map Prod.snd)

namespace Layout

variable {c c' : Lru} {i : Nat} {e : Entry} {key : String} {value : Value}
  {l r chain chain' : List (Nat × Entry)}

theorem empty (budget : Nat) : Layout (Lru.empty budget) [] where
  chained := ⟨trivial, List.nodup_nil, rfl, rfl⟩
  places := by simp [Lru.empty]
  keys_nodup := List.nodup_nil
  index_iff key i := by simp [Lru.empty]
  size_eq := by simp [Lru.empty]
  used_eq := rfl

/-! ## Finding a key -/

/-- A key the index knows has an entry in the row. -/
theorem exists_split (h : Layout c chain) (hi : c.index[key]? = some i) :
    ∃ l e r, chain = l ++ (i, e) :: r ∧ e.key = key := by
  obtain ⟨e, he, hk⟩ := (h.index_iff key i).mp hi
  obtain ⟨l, r, rfl⟩ := List.append_of_mem he
  exact ⟨l, e, r, rfl, hk⟩

/-- The index knows a key as long as the key has an entry. -/
theorem mem_index_iff (h : Layout c chain) : key ∈ c.index ↔ ∃ x ∈ chain, x.2.key = key := by
  rw [Std.HashMap.mem_iff_isSome_getElem?, Option.isSome_iff_exists]
  constructor
  · rintro ⟨i, hi⟩
    obtain ⟨e, he, hk⟩ := (h.index_iff key i).mp hi
    exact ⟨(i, e), he, hk⟩
  · rintro ⟨⟨i, e⟩, he, hk⟩
    exact ⟨i, (h.index_iff key i).mpr ⟨e, he, hk⟩⟩

theorem index_eq_none_iff (h : Layout c chain) :
    c.index[key]? = none ↔ ∀ e ∈ chain.map Prod.snd, e.key ≠ key := by
  rw [← Option.not_isSome_iff_eq_none, ← Std.HashMap.mem_iff_isSome_getElem?, h.mem_index_iff]
  simp only [List.mem_map, not_exists, not_and]
  constructor
  · rintro hno e ⟨x, hx, rfl⟩
    exact hno x hx
  · intro hno x hx
    exact hno x.2 ⟨x, hx, rfl⟩

theorem keys_ne (h : Layout c (l ++ (i, e) :: r)) :
    (∀ x ∈ l.map Prod.snd, x.key ≠ e.key) ∧ ∀ x ∈ r.map Prod.snd, x.key ≠ e.key := by
  have hn := h.keys_nodup
  rw [List.map_append, List.map_append, List.map_cons, List.map_cons, List.nodup_append',
    List.nodup_cons] at hn
  obtain ⟨-, ⟨hr, -⟩, hd⟩ := hn
  refine ⟨fun x hx hk => hd (List.mem_map_of_mem hx) ?_, fun x hx hk => hr ?_⟩
  · simp [hk]
  · exact hk ▸ List.mem_map_of_mem hx

/-- The entries without the one in a slot. -/
theorem without_eq (h : Layout c (l ++ (i, e) :: r)) :
    without ((l ++ (i, e) :: r).map Prod.snd) e.key = (l ++ r).map Prod.snd := by
  have hn := h.keys_nodup
  rw [List.map_append, List.map_cons] at hn ⊢
  rw [Recency.without_eq_append hn, List.map_append]

theorem find?_eq (h : Layout c (l ++ (i, e) :: r)) :
    ((l ++ (i, e) :: r).map Prod.snd).find? (·.key = e.key) = some e := by
  obtain ⟨hl, -⟩ := h.keys_ne
  have hno : (l.map Prod.snd).find? (·.key = e.key) = none :=
    List.find?_eq_none.mpr fun x hx => by simpa using hl x hx
  rw [List.map_append, List.map_cons, List.find?_append, hno]
  simp

/-! ## Moving and replacing entries -/

/-- The slots in another order, with other links. -/
theorem rearrange (h : Layout c chain) (ha : Alike c c') (hc : Chained c' chain')
    (hp : chain'.Perm chain) : Layout c' chain' where
  chained := hc
  places := by
    rw [ha.free, ha.size]
    exact ((hp.map _).append_right _).trans h.places
  keys_nodup := (((hp.map _).map _).nodup_iff).mpr h.keys_nodup
  index_iff key i := by
    rw [ha.index, h.index_iff key i]
    simp only [hp.mem_iff]
  size_eq := by rw [ha.index, h.size_eq, hp.length_eq]
  used_eq := by
    rw [ha.used, h.used_eq]
    exact Recency.weight_perm (hp.map _).symm

/-- An entry becomes the most recently used. -/
theorem move (h : Layout c (l ++ (i, e) :: r)) : Layout (c.touch i) ((i, e) :: (l ++ r)) :=
  h.rearrange alike_touch h.chained.touch List.perm_middle.symm

/-- An entry gets another value, and is charged for it instead. -/
theorem replace (h : Layout c (l ++ (i, e) :: r)) :
    Layout
      { c with
        used := c.used + value.size - e.value.size
        slots := c.slots.modify i fun s => { s with entry := { s.entry with value } } }
      (l ++ (i, { e with value }) :: r) where
  chained := by
    -- The links of the slot stay, and so does the key of its entry.
    have he : c.slots.modify i (fun s => { s with entry := { s.entry with value } }) =
        c.slots.modify i ({ · with entry := { e with value } }) := by
      refine Array.ext_getElem? fun j => ?_
      rw [Array.getElem?_modify, Array.getElem?_modify]
      split
      · rename_i hj
        subst hj
        rw [h.chained.slot]
        rfl
      · rfl
    refine ⟨?_, by simpa using h.chained.nodup, ?_, ?_⟩
    · rw [he]
      exact h.chained.linked.modify_entry h.chained.nodup
    · rw [h.chained.newest]
      cases l <;> rfl
    · rw [h.chained.oldest, last_append, last_append]
      rfl
  places := by simpa using h.places
  keys_nodup := by simpa using h.keys_nodup
  index_iff key j := by
    rw [h.index_iff key j]
    simp only [List.mem_append, List.mem_cons, Prod.mk.injEq]
    constructor
    · rintro ⟨x, hx | ⟨rfl, rfl⟩ | hx, hk⟩
      · exact ⟨x, .inl hx, hk⟩
      · exact ⟨_, .inr (.inl ⟨rfl, rfl⟩), hk⟩
      · exact ⟨x, .inr (.inr hx), hk⟩
    · rintro ⟨x, hx | ⟨rfl, rfl⟩ | hx, hk⟩
      · exact ⟨x, .inl hx, hk⟩
      · exact ⟨_, .inr (.inl ⟨rfl, rfl⟩), hk⟩
      · exact ⟨x, .inr (.inr hx), hk⟩
  size_eq := by simpa using h.size_eq
  used_eq := by
    have hu := h.used_eq
    simp only [weight, List.map_append, List.map_cons, List.sum_append, List.sum_cons,
      Entry.cost] at hu ⊢
    omega

/-! ## Adding and removing entries -/

/-- A slot that is no longer vacant holds the new entry, and nothing else has changed. -/
theorem place (hc : Chained c chain)
    (hp : (chain.map Prod.fst ++ c.free).Perm (List.range c.slots.size))
    (hplace : c.place e = (c', i)) :
    Chained c' chain ∧ c'.slots[i]? = some ⟨e, none, none⟩ ∧
      (i :: (chain.map Prod.fst ++ c'.free)).Perm (List.range c'.slots.size) := by
  unfold Lru.place at hplace
  split at hplace
  · -- A vacant slot is used again, and no slot in use is touched.
    rename_i j free hf
    obtain ⟨rfl, rfl⟩ := Prod.mk.inj hplace
    rw [hf] at hp
    have hj : j < c.slots.size := List.mem_range.mp (hp.mem_iff.mp (by simp))
    have hn : (chain.map Prod.fst ++ j :: free).Nodup := hp.nodup_iff.mpr List.nodup_range
    have hfresh : j ∉ chain.map Prod.fst := by
      rw [List.nodup_middle, List.nodup_cons] at hn
      exact fun hj' => hn.1 (List.mem_append_left _ hj')
    refine ⟨hc.congr (fun k hk => ?_) rfl rfl, ?_, ?_⟩
    · rw [Array.getElem?_modify, if_neg]
      rintro rfl
      exact hfresh hk
    · rw [Array.getElem?_modify, if_pos rfl, Array.getElem?_eq_getElem hj]
      rfl
    · rw [Array.size_modify]
      exact List.perm_middle.symm.trans hp
  · -- All slots are in use, so that there has to be one more.
    rename_i hf
    obtain ⟨rfl, rfl⟩ := Prod.mk.inj hplace
    rw [hf, List.append_nil] at hp
    refine ⟨hc.congr (fun k hk => ?_) rfl rfl, ?_, ?_⟩
    · have hlt : k < c.slots.size := List.mem_range.mp (hp.mem_iff.mp hk)
      rw [Array.getElem?_push, if_neg (Nat.ne_of_lt hlt)]
    · rw [Array.getElem?_push, if_pos rfl]
    · rw [hf, List.append_nil, Array.size_push, List.range_succ]
      exact (hp.cons _).trans (List.perm_append_singleton _ _).symm

theorem place_frame (hplace : c.place e = (c', i)) :
    c'.budget = c.budget ∧ c'.used = c.used ∧ c'.index = c.index := by
  unfold Lru.place at hplace
  split at hplace <;> obtain ⟨rfl, rfl⟩ := Prod.mk.inj hplace <;> exact ⟨rfl, rfl, rfl⟩

/-- The index after a key that it did not know is entered. -/
theorem index_insert (h : Layout c chain) (hno : ∀ e ∈ chain.map Prod.snd, e.key ≠ key) (k : String)
    (j : Nat) : (c.index.insert key i)[k]? = some j ↔
      ∃ e, (j, e) ∈ (i, ⟨key, value⟩) :: chain ∧ e.key = k := by
  rw [Std.HashMap.getElem?_insert]
  by_cases hk : key = k
  · subst hk
    rw [if_pos (beq_self_eq_true _)]
    constructor
    · intro hj
      obtain rfl := Option.some.inj hj
      exact ⟨_, List.mem_cons_self, rfl⟩
    · rintro ⟨x, hx, hxk⟩
      rcases List.mem_cons.mp hx with hx | hx
      · rw [(Prod.mk.inj hx).1]
      · exact absurd hxk (hno x (List.mem_map_of_mem (f := Prod.snd) hx))
  · rw [if_neg (by simpa using hk), h.index_iff k j]
    constructor
    · rintro ⟨x, hx, hxk⟩
      exact ⟨x, List.mem_cons_of_mem _ hx, hxk⟩
    · rintro ⟨x, hx, hxk⟩
      rcases List.mem_cons.mp hx with hx | hx
      · obtain ⟨rfl, rfl⟩ := Prod.mk.inj hx
        exact absurd hxk hk
      · exact ⟨x, hx, hxk⟩

/-- The index after the key of the last entry is deleted. -/
theorem index_erase (h : Layout c (l ++ [(i, e)])) (k : String) (j : Nat) :
    (c.index.erase e.key)[k]? = some j ↔ ∃ x, (j, x) ∈ l ∧ x.key = k := by
  obtain ⟨hl, -⟩ := h.keys_ne
  rw [Std.HashMap.getElem?_erase]
  by_cases hk : e.key = k
  · subst hk
    rw [if_pos (beq_self_eq_true _)]
    constructor
    · intro hj
      cases hj
    · rintro ⟨x, hx, hxk⟩
      exact absurd hxk (hl x (List.mem_map_of_mem (f := Prod.snd) hx))
  · rw [if_neg (by simpa using hk), h.index_iff k j]
    constructor
    · rintro ⟨x, hx, hxk⟩
      rcases List.mem_append.mp hx with hx | hx
      · exact ⟨x, hx, hxk⟩
      · obtain ⟨rfl, rfl⟩ := Prod.mk.inj (List.mem_singleton.mp hx)
        exact absurd hxk hk
    · rintro ⟨x, hx, hxk⟩
      exact ⟨x, List.mem_append_left _ hx, hxk⟩

/-- A new entry takes a slot that was vacant, and comes in front. -/
theorem insert (h : Layout c chain) (hkey : c.index[key]? = none) (value : Value) :
    ∃ i, Layout (c.put key value) ((i, ⟨key, value⟩) :: chain) ∧
      (c.put key value).budget = c.budget := by
  unfold Lru.put
  rw [hkey]
  -- The entry is charged for, placed in a slot, entered in the index, and linked in front.
  obtain ⟨⟨c', i⟩, hplace⟩ : ∃ p, ({ c with
      used := c.used + (key.utf8ByteSize + value.size) } : Lru).place ⟨key, value⟩ = p := ⟨_, rfl⟩
  have charged : Chained { c with used := c.used + (key.utf8ByteSize + value.size) } chain :=
    h.chained.congr (fun _ _ => rfl) rfl rfl
  obtain ⟨hc, hs, hp⟩ := place charged h.places hplace
  obtain ⟨hbudget, hused, hindex⟩ := place_frame hplace
  simp only [hplace]
  have alike := alike_pushNewest (c := { c' with index := c'.index.insert key i }) (i := i)
  have hfresh : i ∉ chain.map Prod.fst := by
    have hn := hp.nodup_iff.mpr List.nodup_range
    rw [List.nodup_cons] at hn
    exact fun hi => hn.1 (List.mem_append_left _ hi)
  have hno := h.index_eq_none_iff.mp hkey
  refine ⟨i, ⟨?_, ?_, ?_, fun k j => ?_, ?_, ?_⟩, alike.budget.trans hbudget⟩
  · have indexed : Chained { c' with index := c'.index.insert key i } chain :=
      hc.congr (fun _ _ => rfl) rfl rfl
    exact indexed.pushNewest hfresh hs
  · rw [alike.free, alike.size]
    exact hp
  · rw [List.map_cons, List.map_cons, List.nodup_cons]
    refine ⟨fun hm => ?_, h.keys_nodup⟩
    obtain ⟨x, hx, hk⟩ := List.mem_map.mp hm
    exact hno x hx hk
  · rw [alike.index, hindex]
    exact h.index_insert hno k j
  · have hmem : key ∉ c.index := by
      rw [Std.HashMap.mem_iff_isSome_getElem?, hkey]
      simp
    rw [alike.index, hindex, Std.HashMap.size_insert, if_neg hmem, h.size_eq, List.length_cons]
  · rw [alike.used, hused]
    simp only [h.used_eq, weight, List.map_cons, List.sum_cons, Entry.cost]
    omega

/-- The least recently used entry leaves, and its slot is vacant. -/
theorem evict (h : Layout c (l ++ [(i, e)])) :
    ∃ c', c.evict? = some (c', e) ∧ Layout c' l ∧ c'.budget = c.budget := by
  have holdest := h.chained.oldest_concat
  have alike := alike_unlink (c := c) (i := i)
  have hchained := h.chained.unlink
  rw [List.append_nil] at hchained
  have hp := h.places
  have hn : ((l ++ [(i, e)]).map Prod.fst).Nodup := h.chained.nodup
  rw [List.map_append, List.nodup_append'] at hn
  have hfresh : i ∉ l.map Prod.fst := fun hi => hn.2.2 hi (by simp)
  have hkeys := h.keys_nodup
  rw [List.map_append, List.map_append, List.nodup_append'] at hkeys
  rw [evict?, holdest, Option.bind_some, h.chained.slot, Option.map_some]
  refine ⟨_, rfl, ⟨?_, ?_, hkeys.1, fun k j => ?_, ?_, ?_⟩, alike.budget⟩
  · refine hchained.congr (fun j hj => ?_) rfl rfl
    refine (Array.getElem?_modify ..).trans (if_neg ?_)
    rintro rfl
    exact hfresh hj
  · simp only [alike.free, Array.size_modify, alike.size]
    refine List.Perm.trans ?_ hp
    rw [List.map_append, List.append_assoc]
    rfl
  · simp only [alike.index]
    exact h.index_erase k j
  · have hmem : e.key ∈ c.index := h.mem_index_iff.mpr ⟨(i, e), by simp, rfl⟩
    simp only [alike.index, Std.HashMap.size_erase, if_pos hmem, h.size_eq, List.length_append,
      List.length_singleton]
    omega
  · have hu := h.used_eq
    simp only [weight, List.map_append, List.sum_append, List.map_cons, List.map_nil,
      List.sum_cons, List.sum_nil] at hu
    simp only [alike.used, hu, weight]
    omega

/-- **Eviction takes entries off the back until the others fit.** -/
theorem shrink (h : Layout c chain) {n : Nat} (hn : chain.length ≤ n) :
    ∃ chain', Layout (c.shrink n).1 chain' ∧
      chain'.map Prod.snd = (shed c.budget (chain.map Prod.snd).reverse).2.reverse ∧
      (c.shrink n).2 = (shed c.budget (chain.map Prod.snd).reverse).1 ∧
      (c.shrink n).1.budget = c.budget := by
  -- Every entry that leaves takes one unit of fuel, and there is one for each.
  induction n generalizing c chain with
  | zero =>
    obtain rfl := List.eq_nil_of_length_eq_zero (Nat.le_zero.mp hn)
    exact ⟨[], h, rfl, rfl, rfl⟩
  | succ n ih =>
    rcases List.eq_nil_or_concat chain with rfl | ⟨l, ⟨i, e⟩, rfl⟩
    · -- Nothing is there any more, so nothing is charged for.
      have hu : c.used ≤ c.budget := by
        rw [h.used_eq]
        exact Nat.zero_le _
      rw [Lru.shrink, if_pos hu]
      exact ⟨[], h, rfl, rfl, rfl⟩
    · rw [List.concat_eq_append] at h hn ⊢
      have hrev : ((l ++ [(i, e)]).map Prod.snd).reverse = e :: (l.map Prod.snd).reverse := by simp
      have hw : weight (e :: (l.map Prod.snd).reverse) = c.used := by
        rw [h.used_eq, ← hrev]
        exact Recency.weight_perm (List.reverse_perm _)
      rw [hrev, shed, hw, Lru.shrink]
      by_cases hu : c.used ≤ c.budget
      · rw [if_pos hu, if_pos hu]
        exact ⟨_, h, by simp, rfl, rfl⟩
      · rw [if_neg hu, if_neg hu]
        obtain ⟨c', he, hl, hb⟩ := h.evict
        rw [List.length_append, List.length_singleton] at hn
        obtain ⟨chain', h', hkept, hout, hb'⟩ := ih hl (Nat.le_of_succ_le_succ hn)
        rw [hb] at hkept hout
        simp only [he]
        exact ⟨chain', h', hkept, congrArg (e :: ·) hout, hb'.trans hb⟩

/-- There are no more entries than slots. -/
theorem length_le (h : Layout c chain) : chain.length ≤ c.slots.size := by
  have hl := h.places.length_eq
  rw [List.length_append, List.length_map, List.length_range] at hl
  omega

end Layout

/-! ## Lookups and insertions -/

/-- The entries of `c` are `es`, the most recently used in front. -/
def Shows (c : Lru) (es : List Entry) : Prop :=
  ∃ chain, Layout c chain ∧ es = chain.map Prod.snd

namespace Shows

variable {c : Lru} {es : List Entry} {key : String} {value : Value}

theorem empty (budget : Nat) : Shows (Lru.empty budget) [] := ⟨[], .empty budget, rfl⟩

theorem keys_nodup (h : Shows c es) : (es.map (·.key)).Nodup := by
  obtain ⟨chain, h, rfl⟩ := h
  exact h.keys_nodup

theorem used_eq (h : Shows c es) : c.used = weight es := by
  obtain ⟨chain, h, rfl⟩ := h
  exact h.used_eq

theorem size_eq (h : Shows c es) : c.size = es.length := by
  obtain ⟨chain, h, rfl⟩ := h
  rw [Lru.size, h.size_eq, List.length_map]

/-- **A lookup finds the value of its key, which becomes the most recently used.** -/
theorem get (h : Shows c es) (key : String) : (c.get key).2 = lookup es key ∧
    Shows (c.get key).1 (Recency.touch es key) ∧ (c.get key).1.budget = c.budget := by
  obtain ⟨chain, h, rfl⟩ := h
  unfold Lru.get
  split
  · rename_i i hi
    obtain ⟨l, e, r, rfl, rfl⟩ := h.exists_split hi
    refine ⟨?_, ⟨(i, e) :: (l ++ r), h.move, ?_⟩, alike_touch.budget⟩
    · rw [h.chained.slot, lookup, h.find?_eq]
      rfl
    · rw [Recency.touch, h.find?_eq, List.map_cons]
      exact congrArg (e :: ·) h.without_eq
  · rename_i hi
    have hno : (chain.map Prod.snd).find? (·.key = key) = none :=
      List.find?_eq_none.mpr fun e he => by simpa using h.index_eq_none_iff.mp hi e he
    refine ⟨?_, ⟨chain, h, ?_⟩, rfl⟩
    · rw [lookup, hno]
      rfl
    · rw [Recency.touch, hno]

/-- A lookup that finds nothing leaves all as it is. -/
theorem get_of_none (h : Shows c es) (hk : lookup es key = none) : (c.get key).1 = c := by
  obtain ⟨chain, h, rfl⟩ := h
  have hno : c.index[key]? = none := by
    apply h.index_eq_none_iff.mpr
    exact Recency.lookup_eq_none_iff.mp hk
  simp only [Lru.get, hno]

theorem put (h : Shows c es) (key : String) (value : Value) :
    Shows (c.put key value) (Recency.put es key value) ∧
      (c.put key value).budget = c.budget := by
  obtain ⟨chain, h, rfl⟩ := h
  cases hi : c.index[key]? with
  | none =>
    -- The key is new, so no entry has to go for it.
    obtain ⟨i, hput, hb⟩ := h.insert hi value
    refine ⟨⟨_, hput, ?_⟩, hb⟩
    have hno := h.index_eq_none_iff.mp hi
    rw [Recency.put, List.map_cons, without]
    exact congrArg (_ :: ·) (List.filter_eq_self.mpr fun e he => decide_eq_true (hno e he))
  | some i =>
    -- The key has an entry, which gets the value and moves to the front.
    obtain ⟨l, e, r, rfl, rfl⟩ := h.exists_split hi
    unfold Lru.put
    simp only [hi, h.chained.slot, Option.map_some, Option.getD_some]
    refine ⟨⟨_, h.replace.move, ?_⟩, alike_touch.budget⟩
    rw [Recency.put, h.without_eq, List.map_cons]

/-- **An insertion puts its entry in front and evicts off the back.** -/
theorem add (h : Shows c es) (key : String) (value : Value) :
    Shows (c.add key value).1 (Recency.add c.budget es key value).1 ∧
      (c.add key value).2 = (Recency.add c.budget es key value).2 ∧
      (c.add key value).1.budget = c.budget := by
  obtain ⟨⟨chain, hput, hes⟩, hb⟩ := h.put key value
  -- There are no more entries than slots, so the fuel is enough.
  obtain ⟨chain', h', hkept, hout, hb'⟩ := hput.shrink hput.length_le
  rw [← hes, hb] at hkept hout
  exact ⟨⟨chain', h', hkept.symm⟩, hout, hb'.trans hb⟩

end Shows

/-! ## From slot to slot -/

/-- The entries met from a slot on, on the way to the oldest, in `n` slots at most. -/
def walk (slots : Array Slot) : Nat → Option Nat → List Entry
  | 0, _ => []
  | _ + 1, none => []
  | n + 1, some i =>
    match slots[i]? with
    | some s => s.entry :: walk slots n s.older
    | none => []

/-- The entries met on the way from the newest slot to the oldest. -/
def entries (c : Lru) : List Entry := walk c.slots c.slots.size c.newest

theorem walk_none (slots : Array Slot) (n : Nat) : walk slots n none = [] := by
  cases n <;> rfl

theorem Linked.walk_eq {slots : Array Slot} {newer : Option Nat} {chain : List (Nat × Entry)}
    (h : Linked slots newer chain none) {n : Nat} (hn : chain.length ≤ n) :
    walk slots n (first chain none) = chain.map Prod.snd := by
  induction chain generalizing newer n with
  | nil => exact walk_none slots n
  | cons x chain ih =>
    obtain ⟨i, e⟩ := x
    obtain ⟨hslot, hrest⟩ := h
    cases n with
    | zero => exact absurd hn (Nat.not_succ_le_zero _)
    | succ n =>
      have htail := ih hrest (Nat.le_of_succ_le_succ hn)
      rw [first, walk, hslot, List.map_cons, ← htail]

/-- **The entries are met in their order**, and all of them. -/
theorem Shows.entries_eq {c : Lru} {es : List Entry} (h : Shows c es) : c.entries = es := by
  obtain ⟨chain, h, rfl⟩ := h
  rw [entries, h.chained.newest]
  exact h.chained.linked.walk_eq h.length_le

end ReadThrough.Lru
