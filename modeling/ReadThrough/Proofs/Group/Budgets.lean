import Mathlib.Algebra.Order.BigOperators.Group.List
import Mathlib.Algebra.Order.Group.Nat
import ReadThrough.Proofs.Group.Lookup
import ReadThrough.Proofs.Lru.Inclusion
import ReadThrough.Proofs.Run

/-!
# What a larger budget is good for

Two groups with the same loader are asked for the same keys, one after the other, and one of them
has room for more. If the loader answers alike whenever it is asked for a key, the group with more
room is never worse off: it has at any time what the other one has, and its loader is called no more
often. The reason is that a lookup ties reading and storing together, so that the smaller store is
the front of the larger one, most recently used entries first.

## Main definitions

* `Reply.value? limit reply`: what a load stores
* `Group.Holds budget limit loader g es`: between two lookups
* `Group.Covers loader s l keys`: what group `l` has in advance of group `s`

## Main results

* `Group.Holds.serve`: what a lookup does to the entries
* `Group.covers_of_le`: a larger budget is never worse
-/

namespace ReadThrough

/-! ## What a load stores -/

/-- The value that comes of a reply within a limit, if one does. -/
def Reply.value? (limit : Option Nat) : Reply → Option Value
  | .now outcome => outcome.toOption
  | .later ms outcome => if limit.any (· < ms) then none else outcome.toOption
  | .never => none

theorem Reply.gives_of_value? {limit : Option Nat} {reply : Reply} {value : Value}
    (h : reply.value? limit = some value) : reply.Gives limit value := by
  have of_toOption : ∀ {outcome : Outcome}, outcome.toOption = some value →
      outcome = .ok value := by
    rintro (fault | v) hv
    · cases hv
    · exact congrArg _ (Option.some.inj hv)
  cases reply with
  | now outcome => exact of_toOption h
  | later ms outcome =>
    rw [Reply.value?] at h
    split at h
    · cases h
    · rename_i hin
      refine ⟨of_toOption h, ?_⟩
      rintro l rfl
      simpa using hin
  | never => cases h

namespace Group

open Recency (lookup touch demand Repeats)

variable {g : Group} {key : String} {reply : Reply} {value : Value}

/-- A load that comes to no value leaves the store as it is. -/
theorem store_resume_of_none (h : reply.value? g.limit = none) :
    (g.resume key .loader 0 reply).1.store = g.store := by
  have hdeliver : ∀ {elapsed : Nat} {outcome : Outcome}, outcome.toOption = none →
      (g.deliver key .loader elapsed outcome).1.store = g.store := by
    rintro elapsed (fault | v) hv
    · rw [deliver_loader]
      exact receive_error
    · cases hv
  cases reply with
  | now outcome => exact hdeliver h
  | later ms outcome =>
    unfold resume
    cases hl : g.limit with
    | none =>
      rw [hl] at h
      exact hdeliver h
    | some l =>
      dsimp only
      split
      · rfl
      · -- The limit is not over, so there is no value because the loader has none.
        rename_i hin
        rw [hl, Reply.value?, if_neg (by simpa using hin)] at h
        exact hdeliver h
  | never =>
    unfold resume
    cases g.limit <;> rfl

/-! ## Entries under lookups -/

variable {loader : Loader}

/-- Between two lookups: the entries of the group are `es`, and each of them is what the loader
would give again. -/
structure Holds (budget : Nat) (limit : Option Nat) (loader : Loader) (g : Group)
    (es : List Entry) : Prop where
  shows : g.store.lru.Shows es
  budget_eq : g.store.lru.budget = budget
  limit_eq : g.limit = limit
  repeats : Repeats (fun key => (loader key).value? limit) es

namespace Holds

variable {budget : Nat} {limit : Option Nat} {es : List Entry}

theorem create (name : String) (budget : Nat) (limit : Option Nat) (loader : Loader) :
    Holds budget limit loader (.create name budget limit) [] :=
  ⟨.empty budget, rfl, rfl, .nil⟩

theorem find?_eq (h : Holds budget limit loader g es) (key : String) :
    g.store.find? key = lookup es key := Store.Sound.find?_eq h.shows

theorem limit_serve (h : Holds budget limit loader g es) (key : String) :
    (g.serve loader key).1.limit = limit :=
  (limit_of_setup (setup_get (.ofLoader loader) g key)).trans h.limit_eq

/-- Two looks in vain move no entry. -/
theorem shows_missed (h : Holds budget limit loader g es) (hk : key ≠ "")
    (hv : lookup es key = none) :
    (g.missed key).store.lru.Shows es ∧ (g.missed key).store.lru.budget = budget := by
  have htouch : touch es key = es := Recency.touch_eq_self hv
  obtain ⟨-, hshows, hbudget⟩ := h.shows.get key
  rw [htouch] at hshows
  obtain ⟨-, hshows', hbudget'⟩ := hshows.get key
  rw [htouch] at hshows'
  rw [store_missed hk]
  exact ⟨hshows', (hbudget'.trans hbudget).trans h.budget_eq⟩

/-- **What a lookup does to the entries**: it moves the one it finds to the front, or puts in front
what is loaded. -/
theorem serve (h : Holds budget limit loader g es) (hk : key ≠ "") :
    Holds budget limit loader (g.serve loader key).1
      (demand budget es key ((loader key).value? limit)) := by
  have hrepeats := h.repeats.demand budget key
  cases hv : lookup es key with
  | some value =>
    have hfound : (g.serve loader key).1.store = (g.store.get key).1 := by
      rw [Group.serve, get_of_found _ hk ((h.find?_eq key).trans hv)]
      exact look_store hk
    obtain ⟨-, hshows, hbudget⟩ := h.shows.get key
    rw [Recency.demand_of_some budget hv] at hrepeats ⊢
    refine ⟨?_, ?_, h.limit_serve key, hrepeats⟩
    · rw [hfound, Store.lru_get]
      exact hshows
    · rw [hfound, Store.lru_get]
      exact hbudget.trans h.budget_eq
  | none =>
    obtain ⟨hshows, hbudget⟩ := h.shows_missed hk hv
    have hlimit : (loader key).value? (g.missed key).limit = (loader key).value? limit := by
      have hsetup : (g.missed key).limit = g.limit := limit_of_setup setup_missed
      rw [hsetup, h.limit_eq]
    have habsent := serve_of_absent loader hk ((h.find?_eq key).trans hv)
    cases hl : (loader key).value? limit with
    | some value =>
      rw [hl, Recency.demand_of_none budget hv] at hrepeats
      rw [Recency.demand_of_none budget hv]
      -- The value comes in time, and is stored.
      have hstore : (g.serve loader key).1.store = ((g.missed key).store.add key value).1 := by
        rw [habsent, resume_of_gives (Reply.gives_of_value? (hlimit.trans hl))]
        exact receive_ok
      obtain ⟨hadd, -, hbudget'⟩ := hshows.add key value
      rw [hbudget] at hadd
      refine ⟨?_, ?_, h.limit_serve key, hrepeats⟩
      · rw [hstore, Store.lru_add]
        exact hadd
      · rw [hstore, Store.lru_add]
        exact hbudget'.trans hbudget
    | none =>
      rw [hl, Recency.demand_none budget hv] at hrepeats
      rw [Recency.demand_none budget hv]
      have hstore : (g.serve loader key).1.store = (g.missed key).store := by
        rw [habsent]
        exact store_resume_of_none (hlimit.trans hl)
      refine ⟨?_, ?_, h.limit_serve key, hrepeats⟩
      · rw [hstore]
        exact hshows
      · rw [hstore]
        exact hbudget

/-- A lookup without a key changes no entry. -/
theorem serve_empty (h : Holds budget limit loader g es) :
    Holds budget limit loader (g.serve loader "").1 es := by
  have hstore : (g.serve loader "").1.store = g.store := by
    rw [Group.serve, get_empty, look_empty]
    rfl
  refine ⟨?_, ?_, h.limit_serve "", h.repeats⟩
  · rw [hstore]
    exact h.shows
  · rw [hstore]
    exact h.budget_eq

end Holds

/-! ## Answers -/

/-- The lookup was answered from the store. -/
def FromStore (value : Value) (answer : Option Outcome × List Side) : Prop :=
  answer = (some (.ok value), [])

/-- A lookup is answered from the store if the store has something for its key. -/
theorem fromStore_serve_iff (loader : Loader) (hk : key ≠ "") :
    FromStore value (g.serve loader key).2 ↔ g.store.find? key = some value := by
  cases hv : g.store.find? key with
  | some v =>
    rw [serve, get_of_found _ hk hv, FromStore]
    simp
  | none =>
    rw [serve_of_absent loader hk hv]
    constructor
    · intro h
      exact absurd (congrArg Prod.snd h) (List.cons_ne_nil _ _)
    · intro h
      cases h

/-- The loader is called if the store has nothing for the key. -/
theorem count_loader_serve (loader : Loader) (hk : key ≠ "") :
    (g.serve loader key).2.2.count .loader = if (g.store.find? key).isSome then 0 else 1 := by
  cases hv : g.store.find? key with
  | some v =>
    rw [serve, get_of_found _ hk hv]
    rfl
  | none =>
    rw [serve_of_absent loader hk hv]
    rfl

/-- The number of calls to the loader. -/
def loaderCalls (answers : List (Option Outcome × List Side)) : Nat :=
  (answers.map fun answer => answer.2.count .loader).sum

/-- One lookup is no worse than another: it is answered from the store if the other one is, and it
calls the loader no more often. -/
def NoWorse (answer answer' : Option Outcome × List Side) : Prop :=
  (∀ value, FromStore value answer → FromStore value answer') ∧
    answer'.2.count .loader ≤ answer.2.count .loader

theorem loaderCalls_le {answers answers' : List (Option Outcome × List Side)}
    (h : List.Forall₂ NoWorse answers answers') : loaderCalls answers' ≤ loaderCalls answers := by
  apply List.Forall₂.sum_le_sum
  rw [List.forall₂_map_left_iff, List.forall₂_map_right_iff]
  exact h.flip.imp fun _ _ hno => hno.2

/-! ## Two groups -/

/-- The entries of the one group are the first of those of the other. -/
def Within (small large : Nat) (limit : Option Nat) (loader : Loader) (s l : Group) : Prop :=
  ∃ es es', Holds small limit loader s es ∧ Holds large limit loader l es' ∧ es <+: es'

namespace Within

variable {small large : Nat} {limit : Option Nat} {s l : Group}

theorem create (name : String) (small large : Nat) (limit : Option Nat) (loader : Loader) :
    Within small large limit loader (.create name small limit) (.create name large limit) :=
  ⟨[], [], .create name small limit loader, .create name large limit loader, List.prefix_rfl⟩

theorem entries (h : Within small large limit loader s l) :
    s.store.lru.entries <+: l.store.lru.entries := by
  obtain ⟨es, es', hs, hl, hpre⟩ := h
  rw [hs.shows.entries_eq, hl.shows.entries_eq]
  exact hpre

theorem find? (h : Within small large limit loader s l) (hv : s.store.find? key = some value) :
    l.store.find? key = some value := by
  obtain ⟨es, es', hs, hl, hpre⟩ := h
  rw [hs.find?_eq] at hv
  rw [hl.find?_eq]
  exact Recency.prefix_lookup hpre hv

/-- A lookup is no worse where there is more room. -/
theorem noWorse (h : Within small large limit loader s l) (key : String) :
    NoWorse (s.serve loader key).2 (l.serve loader key).2 := by
  by_cases hk : key = ""
  · -- Both groups refuse the lookup.
    rw [hk, Group.serve, Group.serve, get_empty, get_empty]
    exact ⟨fun _ hv => hv, Nat.le_refl _⟩
  · constructor
    · intro value hv
      rw [fromStore_serve_iff loader hk] at hv ⊢
      exact h.find? hv
    · rw [count_loader_serve loader hk, count_loader_serve loader hk]
      cases hv : s.store.find? key with
      | some value =>
        rw [h.find? hv]
      | none => split <;> simp

/-- **After a lookup in both groups** the entries of the one are still the first of those of the
other. -/
theorem serve (h : Within small large limit loader s l) (hle : small ≤ large) (key : String) :
    Within small large limit loader (s.serve loader key).1 (l.serve loader key).1 := by
  obtain ⟨es, es', hs, hl, hpre⟩ := h
  by_cases hk : key = ""
  · rw [hk]
    exact ⟨es, es', hs.serve_empty, hl.serve_empty, hpre⟩
  · refine ⟨_, _, hs.serve hk, hl.serve hk, Recency.prefix_demand hpre hle ?_⟩
    -- What the larger store has kept is what the loader would give the smaller one again.
    intro value hv
    exact hl.repeats.lookup hv

end Within

/-- What group `l` has in advance of group `s` while both are asked for the same keys. -/
structure Covers (loader : Loader) (s l : Group) (keys : List String) : Prop where
  /-- At every point the entries of `s` are the first of those of `l`, in order of use. -/
  entries : ∀ n, (stateAfter (serve loader) s (keys.take n)).store.lru.entries <+:
    (stateAfter (serve loader) l (keys.take n)).store.lru.entries
  /-- At every point `l` has what `s` has. -/
  found : ∀ n key value, (stateAfter (serve loader) s (keys.take n)).store.find? key = some value →
    (stateAfter (serve loader) l (keys.take n)).store.find? key = some value
  /-- Every lookup that is answered from the store of `s` is answered from that of `l`. -/
  hits : List.Forall₂ (fun answer answer' => ∀ value, FromStore value answer →
    FromStore value answer') (transcript (serve loader) s keys) (transcript (serve loader) l keys)
  /-- The loader of `l` is called no more often. -/
  calls : loaderCalls (transcript (serve loader) l keys) ≤
    loaderCalls (transcript (serve loader) s keys)

/-- **A larger budget is never worse.** Let two groups have the same loader, which answers alike
whenever it is asked for a key, and no peers. Whatever keys they are asked for, one after the other,
the one with the larger budget covers the other one. -/
theorem covers_of_le (name : String) (limit : Option Nat) (loader : Loader) {small large : Nat}
    (h : small ≤ large) (keys : List String) :
    Covers loader (.create name small limit) (.create name large limit) keys := by
  have both : ∀ keys : List String,
      List.Forall₂ NoWorse (transcript (serve loader) (.create name small limit) keys)
        (transcript (serve loader) (.create name large limit) keys) ∧
      Within small large limit loader
        (stateAfter (serve loader) (.create name small limit) keys)
        (stateAfter (serve loader) (.create name large limit) keys) := by
    intro keys
    apply forall₂_transcript_of_related (R := Within small large limit loader)
    · intro s l hin key
      exact ⟨hin.noWorse key, hin.serve h key⟩
    · exact .create name small large limit loader
  obtain ⟨hno, -⟩ := both keys
  refine ⟨?_, ?_, hno.imp fun _ _ hno => hno.1, loaderCalls_le hno⟩
  · intro n
    exact (both (keys.take n)).2.entries
  · intro n key value hv
    exact (both (keys.take n)).2.find? hv

/-- A loader that answers every key with its own bytes. -/
def echo : Loader := fun key => .now (.ok (.ofText key))

/-- An entry that is too large for either budget empties both stores. -/
theorem covers_of_le_oversized : 4 ≤ 6 ∧
    Covers echo (.create "g" 4 none) (.create "g" 6 none) ["a", "bb", "a", "cccc", "a"] := by
  have h : 4 ≤ 6 := by decide
  exact ⟨h, covers_of_le "g" none echo h ["a", "bb", "a", "cccc", "a"]⟩

end Group

end ReadThrough
