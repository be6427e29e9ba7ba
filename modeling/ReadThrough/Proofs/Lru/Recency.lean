import Mathlib.Algebra.GroupWithZero.Nat
import Mathlib.Data.List.Nodup
import ReadThrough.Value

/-!
# Entries in order of use

The cache as it is meant: a list of entries, the most recently used in front, with no key twice. A
lookup moves an entry to the front, an insertion puts one there, and whatever exceeds the budget is
taken off the back.

## Main definitions

* `Recency.lookup`, `Recency.touch`: the value of a key, and the entries after it was looked up
* `Recency.put`, `Recency.shed`, `Recency.add`: an insertion, what it leaves and what it evicts

## Main results

* `Recency.shed_append`, `Recency.weight_shed_le`, `Recency.length_shed_le`: eviction takes a part
  off the back, so that the rest fits, and no more than that
* `Recency.length_evicted_le`: an insertion evicts no more than it has to
* `Recency.lookup_add`: what can be looked up after an insertion
-/

namespace ReadThrough.Recency

/-- The value under a key. -/
def lookup (es : List Entry) (key : String) : Option Value :=
  (es.find? (·.key = key)).map (·.value)

/-- The entries without the one for a key. -/
def without (es : List Entry) (key : String) : List Entry := es.filter (·.key ≠ key)

/-- The entries after a lookup, which moves the entry found to the front. -/
def touch (es : List Entry) (key : String) : List Entry :=
  match es.find? (·.key = key) with
  | some e => e :: without es key
  | none => es

/-- The entries with a value under a key, in front, before anything is evicted. -/
def put (es : List Entry) (key : String) (value : Value) : List Entry :=
  ⟨key, value⟩ :: without es key

/-- The bytes charged for entries together. -/
def weight (es : List Entry) : Nat := (es.map Entry.cost).sum

/-- Evicts entries until the others fit; here the least recently used is in front. -/
def shed (budget : Nat) : List Entry → List Entry × List Entry
  | [] => ([], [])
  | e :: es =>
    if weight (e :: es) ≤ budget then ([], e :: es)
    else
      let (out, kept) := shed budget es
      (e :: out, kept)

/-- The entries after an insertion, with the evicted ones in order. -/
def add (budget : Nat) (es : List Entry) (key : String) (value : Value) :
    List Entry × List Entry :=
  let (out, kept) := shed budget (put es key value).reverse
  (kept.reverse, out)

variable {budget : Nat} {es es' : List Entry} {e : Entry} {key k : String} {value v : Value}

/-! ## Looking up -/

theorem lookup_eq_none_iff : lookup es key = none ↔ ∀ e ∈ es, e.key ≠ key := by
  simp [lookup]

theorem lookup_of_mem (hn : (es.map (·.key)).Nodup) (he : e ∈ es) :
    lookup es e.key = some e.value := by
  induction es with
  | nil => cases he
  | cons e' es ih =>
    rw [List.map_cons, List.nodup_cons] at hn
    rcases List.mem_cons.mp he with rfl | he
    · simp [lookup]
    · have hne : e'.key ≠ e.key := fun hk => hn.1 (hk ▸ List.mem_map_of_mem he)
      rw [← ih hn.2 he]
      simp [lookup, hne]

/-- What is looked up is the value of an entry for the key. -/
theorem find?_of_lookup (hv : lookup es key = some value) :
    es.find? (·.key = key) = some ⟨key, value⟩ := by
  obtain ⟨e, he, rfl⟩ := Option.map_eq_some_iff.mp hv
  have hk : e.key = key := by simpa using List.find?_some he
  rw [he, ← hk]

theorem mem_of_lookup (hv : lookup es key = some value) : ⟨key, value⟩ ∈ es :=
  List.mem_of_find?_eq_some (find?_of_lookup hv)

theorem lookup_without (es : List Entry) (key k : String) :
    lookup (without es key) k = if k = key then none else lookup es k := by
  split
  · rename_i hk
    subst hk
    exact lookup_eq_none_iff.mpr fun e he => by simpa using (List.mem_filter.mp he).2
  · -- What is filtered out has another key than the one looked for.
    rename_i hk
    simp only [lookup, without, List.find?_filter]
    congr 2
    funext e
    by_cases he : e.key = k
    · simp [he, hk]
    · simp [he]

/-- **A lookup changes no answer.** -/
@[simp] theorem lookup_touch : lookup (touch es key) k = lookup es k := by
  unfold touch
  split
  · rename_i e he
    have hk : e.key = key := by simpa using List.find?_some he
    by_cases h : e.key = k
    · have hkk : key = k := hk.symm.trans h
      subst hkk
      simp [lookup, he, h]
    · have hne : k ≠ key := fun hk' => h (hk.trans hk'.symm)
      have hw := lookup_without es key k
      rw [if_neg hne] at hw
      rw [← hw]
      simp [lookup, h]
  · rfl

/-- The entries without one of them, as no other has its key. -/
theorem without_eq_append {l r : List Entry} (hn : ((l ++ e :: r).map (·.key)).Nodup) :
    without (l ++ e :: r) e.key = l ++ r := by
  rw [List.map_append, List.map_cons, List.nodup_middle, List.nodup_cons, ← List.map_append] at hn
  have hall : ∀ x ∈ l ++ r, x.key ≠ e.key := by
    intro x hx hk
    exact hn.1 (hk ▸ List.mem_map_of_mem hx)
  have hrest : without (l ++ r) e.key = l ++ r :=
    List.filter_eq_self.mpr fun x hx => decide_eq_true (hall x hx)
  rw [without, List.filter_append, List.filter_cons_of_neg (by simp), ← List.filter_append]
  exact hrest

/-- A lookup takes nothing out and puts nothing in. -/
theorem touch_perm (hn : (es.map (·.key)).Nodup) (key : String) : (touch es key).Perm es := by
  unfold touch
  split
  · rename_i e he
    obtain ⟨hk, l, r, rfl, -⟩ := List.find?_eq_some_iff_append.mp he
    obtain rfl : e.key = key := by simpa using hk
    rw [without_eq_append hn]
    exact List.perm_middle.symm
  · exact List.Perm.refl _

theorem lookup_put : lookup (put es key value) k = if k = key then some value else lookup es k := by
  by_cases h : k = key
  · simp [lookup, put, h]
  · have hw := lookup_without es key k
    rw [if_neg h] at hw
    rw [if_neg h, ← hw]
    simp [lookup, put, Ne.symm h]

theorem touch_eq_self (hv : lookup es key = none) : touch es key = es := by
  rw [touch, Option.map_eq_none_iff.mp hv]

/-- To move an entry to the front is to put it there anew. -/
theorem touch_eq_put (hv : lookup es key = some value) : touch es key = put es key value := by
  rw [touch, find?_of_lookup hv, put]

/-! ## Keys -/

theorem keys_nodup_without (hn : (es.map (·.key)).Nodup) :
    ((without es key).map (·.key)).Nodup :=
  hn.sublist (List.filter_sublist.map _)

theorem not_mem_keys_without : key ∉ (without es key).map (·.key) := by
  simp [without]

theorem keys_nodup_put (hn : (es.map (·.key)).Nodup) (key : String) (value : Value) :
    ((put es key value).map (·.key)).Nodup := by
  rw [put, List.map_cons, List.nodup_cons]
  exact ⟨not_mem_keys_without, keys_nodup_without hn⟩

/-! ## How many entries there are -/

theorem length_put_of_none (hv : lookup es key = none) (value : Value) :
    (put es key value).length = es.length + 1 := by
  have hwithout : without es key = es :=
    List.filter_eq_self.mpr fun e he => decide_eq_true (lookup_eq_none_iff.mp hv e he)
  rw [put, List.length_cons, hwithout]

/-- A new value for a key takes the place of the old one. -/
theorem length_put_of_some (hn : (es.map (·.key)).Nodup) (hv : lookup es key = some v)
    (value : Value) : (put es key value).length = es.length :=
  calc (put es key value).length = (put es key v).length := rfl
    _ = (touch es key).length := by rw [touch_eq_put hv]
    _ = es.length := (touch_perm hn key).length_eq

/-! ## Evicting -/

/-- What is evicted and what is kept are the entries, in their order. -/
theorem shed_append (budget : Nat) (es : List Entry) :
    (shed budget es).1 ++ (shed budget es).2 = es := by
  induction es with
  | nil => rfl
  | cons e es ih =>
    rw [shed]
    split
    · rfl
    · exact congrArg (e :: ·) ih

/-- **What is kept fits the budget.** -/
theorem weight_shed_le (budget : Nat) (es : List Entry) :
    weight (shed budget es).2 ≤ budget := by
  induction es with
  | nil => exact Nat.zero_le _
  | cons e es ih =>
    rw [shed]
    split
    · assumption
    · exact ih

theorem weight_perm (h : es.Perm es') : weight es = weight es' := (h.map _).sum_nat

/-- **No more is evicted than has to be**, so that the others fit. -/
theorem length_shed_le {out kept : List Entry} (hes : out ++ kept = es)
    (hfit : weight kept ≤ budget) : (shed budget es).1.length ≤ out.length := by
  induction es generalizing out with
  | nil => exact Nat.zero_le _
  | cons e es ih =>
    rw [shed]
    by_cases hw : weight (e :: es) ≤ budget
    · rw [if_pos hw]
      exact Nat.zero_le _
    · rw [if_neg hw]
      -- All entries together do not fit, so the other way to evict takes the first of them too.
      cases out with
      | nil =>
        rw [List.nil_append] at hes
        exact absurd (hes ▸ hfit) hw
      | cons x out =>
        have htail : out ++ kept = es := (List.cons.inj hes).2
        show (shed budget es).1.length + 1 ≤ out.length + 1
        exact Nat.succ_le_succ (ih htail)

/-- An entry that does not fit by itself goes last, after all the others. -/
theorem shed_concat_of_lt (h : budget < e.cost) (es : List Entry) :
    shed budget (es ++ [e]) = (es ++ [e], []) := by
  have happ := shed_append budget (es ++ [e])
  have hfit := weight_shed_le budget (es ++ [e])
  have hkept : (shed budget (es ++ [e])).2 = [] := by
    rcases List.eq_nil_or_concat (shed budget (es ++ [e])).2 with hnil | ⟨kept, x, hx⟩
    · exact hnil
    · -- What is kept would end with the entry, which is too heavy already.
      exfalso
      rw [List.concat_eq_append] at hx
      rw [hx, ← List.append_assoc] at happ
      obtain rfl : x = e := List.singleton_inj.mp (List.append_inj' happ rfl).2
      rw [hx, weight, List.map_append, List.sum_append] at hfit
      simp only [List.map_cons, List.map_nil, List.sum_cons, List.sum_nil] at hfit
      omega
  rw [hkept, List.append_nil] at happ
  exact Prod.ext happ hkept

/-- An insertion keeps a part of the entries, and what it evicts comes off the back. -/
theorem add_append (budget : Nat) (es : List Entry) (key : String) (value : Value) :
    (add budget es key value).1 ++ (add budget es key value).2.reverse = put es key value := by
  have h := congrArg List.reverse (shed_append budget (put es key value).reverse)
  rwa [List.reverse_append, List.reverse_reverse] at h

theorem length_add (budget : Nat) (es : List Entry) (key : String) (value : Value) :
    (add budget es key value).1.length + (add budget es key value).2.length =
      (put es key value).length := by
  rw [← add_append budget, List.length_append, List.length_reverse]

/-- **An insertion evicts no more than it has to**, so that the others fit. -/
theorem length_evicted_le {kept out : List Entry} (hput : put es key value = kept ++ out)
    (hkept : weight kept ≤ budget) : (add budget es key value).2.length ≤ out.length := by
  have hrev : out.reverse ++ kept.reverse = (put es key value).reverse := by
    rw [hput, List.reverse_append]
  rw [← weight_perm (List.reverse_perm kept)] at hkept
  have hlength : out.reverse.length = out.length := List.length_reverse
  rw [← hlength]
  exact length_shed_le hrev hkept

/-- **After an insertion the entries fit the budget.** -/
theorem weight_add_le (budget : Nat) (es : List Entry) (key : String) (value : Value) :
    weight (add budget es key value).1 ≤ budget := by
  show weight (shed budget (put es key value).reverse).2.reverse ≤ budget
  rw [weight_perm (List.reverse_perm _)]
  exact weight_shed_le budget _

/-- An entry that does not fit by itself empties the list, and is evicted last. -/
theorem add_of_lt (h : budget < Entry.cost ⟨key, value⟩) (es : List Entry) :
    add budget es key value = ([], (put es key value).reverse) := by
  rw [add, put, List.reverse_cons, shed_concat_of_lt h]
  rfl

/-- **What can be looked up after an insertion**: nothing that was evicted, the new value under its
key, and under every other key what was there before. -/
theorem lookup_add (hn : (es.map (·.key)).Nodup) :
    lookup (add budget es key value).1 k =
      if k ∈ (add budget es key value).2.map (·.key) then none
      else if k = key then some value
      else lookup es k := by
  have hp := keys_nodup_put hn key value
  have ha := add_append budget es key value
  rw [← ha, List.map_append, List.nodup_append'] at hp
  obtain ⟨-, -, hdis⟩ := hp
  split
  · -- A key that was evicted has no second entry among those kept.
    rename_i hk
    refine lookup_eq_none_iff.mpr fun e he hek => ?_
    refine hdis (List.mem_map_of_mem he) ?_
    rw [List.map_reverse, List.mem_reverse, hek]
    exact hk
  · -- The entries that were evicted come last, so a lookup does not miss them.
    rename_i hk
    rw [← lookup_put, ← ha]
    have hno : (add budget es key value).2.reverse.find? (·.key = k) = none := by
      rw [List.find?_eq_none]
      intro e he hek
      refine hk (List.mem_map.mpr ⟨e, List.mem_reverse.mp he, ?_⟩)
      simpa using hek
    rw [lookup, lookup, List.find?_append, hno, Option.or_none]

end ReadThrough.Recency
