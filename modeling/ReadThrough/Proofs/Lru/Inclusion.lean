import ReadThrough.Proofs.Lru.Recency

/-!
# Lists of entries under two budgets

Under a smaller budget more entries go off the back, so the entries kept are the first of those kept
under a larger one. This lasts as long as lookups and insertions are tied together: a key that is
looked up is moved to the front where it has an entry, and where it has none the same entry is put
there. Then the front of both lists is the same, and only their backs differ.

## Main definitions

* `Recency.demand budget es key loaded?`: the entries after a lookup that is answered from them, or
  stores what is loaded instead
* `Recency.Repeats source es`: every value is the one that would be loaded again

## Main results

* `Recency.add_prefix_add`: an insertion keeps fewer entries under a smaller budget, the first ones
* `Recency.prefix_demand`: so does a lookup
-/

namespace ReadThrough.Recency

variable {small large : Nat} {es es' : List Entry} {e : Entry} {key : String} {value : Value}
  {loaded? : Option Value}

/-! ## Entries in front -/

theorem prefix_without (h : es <+: es') (key : String) : without es key <+: without es' key :=
  h.filter _

theorem prefix_put (h : es <+: es') (key : String) (value : Value) :
    put es key value <+: put es' key value := by
  rw [put, put, List.cons_prefix_cons]
  exact ⟨rfl, prefix_without h key⟩

theorem prefix_lookup (h : es <+: es') (hv : lookup es key = some value) :
    lookup es' key = some value := by
  obtain ⟨rest, rfl⟩ := h
  rw [lookup, List.find?_append, find?_of_lookup hv]
  rfl

theorem add_prefix_put (budget : Nat) (es : List Entry) (key : String) (value : Value) :
    (add budget es key value).1 <+: put es key value := ⟨_, add_append budget es key value⟩

/-- **Under a smaller budget an insertion keeps fewer entries**, and those are the first ones. -/
theorem add_prefix_add (h : es <+: es') (hle : small ≤ large) (key : String) (value : Value) :
    (add small es key value).1 <+: (add large es' key value).1 := by
  have hsmall : (add small es key value).1 <+: put es' key value :=
    (add_prefix_put small es key value).trans (prefix_put h key value)
  have hlarge : (add large es' key value).1 <+: put es' key value :=
    add_prefix_put large es' key value
  -- Both are what is left of one list, so it is enough that the first is not longer.
  apply List.prefix_of_prefix_length_le hsmall hlarge
  obtain ⟨out, hout⟩ := hsmall
  have hfit : weight (add small es key value).1 ≤ large :=
    Nat.le_trans (weight_add_le small es key value) hle
  -- The larger budget has room for what the smaller one keeps, and evicts no more than it has to.
  have hevicted : (add large es' key value).2.length ≤ out.length :=
    length_evicted_le hout.symm hfit
  have hlength := congrArg List.length (hout.trans (add_append large es' key value).symm)
  rw [List.length_append, List.length_append, List.length_reverse] at hlength
  omega

/-! ## Lookups -/

/-- The entries after a lookup that is answered from them, or else stores what is loaded. -/
def demand (budget : Nat) (es : List Entry) (key : String) (loaded? : Option Value) : List Entry :=
  match lookup es key, loaded? with
  | some _, _ => touch es key
  | none, some value => (add budget es key value).1
  | none, none => es

theorem demand_of_some (budget : Nat) (hv : lookup es key = some value) :
    demand budget es key loaded? = touch es key := by
  simp only [demand, hv]

theorem demand_of_none (budget : Nat) (hv : lookup es key = none) :
    demand budget es key (some value) = (add budget es key value).1 := by
  simp only [demand, hv]

theorem demand_none (budget : Nat) (hv : lookup es key = none) :
    demand budget es key none = es := by
  simp only [demand, hv]

/-- After a lookup there are entries that were there before, and the one that was loaded. -/
theorem mem_demand {budget : Nat} (he : e ∈ demand budget es key loaded?) :
    e ∈ es ∨ e.key = key ∧ loaded? = some e.value := by
  have mem_without : ∀ {key}, e ∈ without es key → e ∈ es := fun he => (List.mem_filter.mp he).1
  cases hv : lookup es key with
  | some value =>
    rw [demand_of_some budget hv, touch_eq_put hv] at he
    rcases List.mem_cons.mp he with rfl | he
    · exact .inl (mem_of_lookup hv)
    · exact .inl (mem_without he)
  | none =>
    cases hl : loaded? with
    | none =>
      rw [hl, demand_none budget hv] at he
      exact .inl he
    | some value =>
      rw [hl, demand_of_none budget hv] at he
      rcases List.mem_cons.mp ((add_prefix_put budget es key value).subset he) with rfl | he
      · exact .inr ⟨rfl, rfl⟩
      · exact .inl (mem_without he)

/-- **Under a smaller budget a lookup leaves fewer entries**, and those are the first ones. What the
larger budget has kept has to be what is loaded where it was evicted. -/
theorem prefix_demand (h : es <+: es') (hle : small ≤ large)
    (hsame : ∀ value, lookup es' key = some value → loaded? = some value) :
    demand small es key loaded? <+: demand large es' key loaded? := by
  cases hv : lookup es key with
  | some value =>
    -- The entry moves to the front in both lists.
    have hv' := prefix_lookup h hv
    rw [demand_of_some small hv, demand_of_some large hv', touch_eq_put hv, touch_eq_put hv']
    exact prefix_put h key value
  | none =>
    cases hv' : lookup es' key with
    | some value =>
      -- The one list gets the entry again that the other one has kept.
      rw [hsame value hv', demand_of_none small hv, demand_of_some large hv', touch_eq_put hv']
      exact (add_prefix_put small es key value).trans (prefix_put h key value)
    | none =>
      cases loaded? with
      | some value =>
        rw [demand_of_none small hv, demand_of_none large hv']
        exact add_prefix_add h hle key value
      | none =>
        rw [demand_none small hv, demand_none large hv']
        exact h

/-! ## Sources that repeat themselves -/

/-- Every value is the one that its source would give again. -/
def Repeats (source : String → Option Value) (es : List Entry) : Prop :=
  ∀ e ∈ es, source e.key = some e.value

variable {source : String → Option Value}

theorem Repeats.nil : Repeats source [] := fun _ he => absurd he List.not_mem_nil

theorem Repeats.lookup (h : Repeats source es) (hv : lookup es key = some value) :
    source key = some value :=
  h _ (mem_of_lookup hv)

theorem Repeats.demand (h : Repeats source es) (budget : Nat) (key : String) :
    Repeats source (demand budget es key (source key)) := by
  intro e he
  rcases mem_demand he with he | ⟨hk, hv⟩
  · exact h e he
  · rw [hk]
    exact hv

end ReadThrough.Recency
