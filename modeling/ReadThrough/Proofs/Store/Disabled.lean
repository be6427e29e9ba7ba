import ReadThrough.Proofs.Lru.Refinement
import ReadThrough.Proofs.Store.Hook

/-!
# Caches without room

A budget of nothing is there to switch a cache off: no lookup finds anything, and whatever is
inserted is evicted and reported at once, by itself. An entry that costs anything does not fit, and
the cache behaves so. The entry with the empty key and the empty value costs nothing. It is kept,
a lookup finds it, and the next insertion evicts two entries.

## Main definitions

* `Entry.blank`: the entry that costs nothing
* `Lru.Op.refused notifies op`: what can be seen of an operation on a cache that keeps nothing
* `Store.Op`, `Store.Sight`, `Store.step`: what can be done to a store whose hook only takes note,
  and what can be seen of it
* `Store.Op.refused op`: what can be seen of an operation on a store that keeps nothing

## Main results

* `Recency.add_zero_nil`: an insertion where there is neither an entry nor room for one
* `Store.Sound.addReporting_quiet`: a hook that only takes note is called with what is evicted
* `disabled_iff`: which operations leave a cache or a store without room empty
-/

namespace ReadThrough

/-! ## Entries that cost nothing -/

/-- The entry that costs nothing. -/
def Entry.blank : Entry := ⟨"", .empty⟩

theorem Entry.cost_eq_zero_iff {e : Entry} : e.cost = 0 ↔ e = .blank := by
  obtain ⟨key, ⟨bytes⟩⟩ := e
  simp [cost, blank, Value.size, Value.empty, String.utf8ByteSize_eq_zero_iff]

/-- An insertion where there is neither an entry nor room for one. -/
theorem Recency.add_zero_nil (key : String) (value : Value) : add 0 [] key value =
    if (⟨key, value⟩ : Entry) = .blank then ([⟨key, value⟩], []) else ([], [⟨key, value⟩]) := by
  by_cases h : (⟨key, value⟩ : Entry) = .blank
  · have hfits : weight [⟨key, value⟩] ≤ 0 := by
      simp [weight, Entry.cost_eq_zero_iff.mpr h]
    rw [if_pos h]
    show ((shed 0 [⟨key, value⟩]).2.reverse, (shed 0 [⟨key, value⟩]).1) = _
    rw [shed, if_pos hfits]
    rfl
  · rw [if_neg h, add_of_lt (Nat.pos_of_ne_zero fun hcost => h (Entry.cost_eq_zero_iff.mp hcost))]
    rfl

/-! ## Caches -/

namespace Lru

/-- The entry an operation stores. -/
def Op.entry? : Op → Option Entry
  | .get _ => none
  | .add key value => some ⟨key, value⟩
  | .addCollect key value => some ⟨key, value⟩

/-- What an operation results in if nothing is kept. -/
def Op.refusal (notifies : Bool) : Op → Reply
  | .get _ => .found none
  | .add key value => .reported (if notifies then [⟨key, value⟩] else [])
  | .addCollect key value => .collected [⟨key, value⟩]

/-- What can be seen of an operation on a cache that keeps nothing. -/
def Op.refused (notifies : Bool) (op : Op) : Sight := ⟨op.refusal notifies, 0, true, 0, none⟩

end Lru

namespace Recency

open Lru (Op)

variable {notifies : Bool} {op : Op}

/-- Where there is neither an entry nor room for one, an operation shows nothing kept, -/
theorem step_zero_nil (h : op.entry? ≠ some .blank) :
    step 0 notifies [] op = ([], op.refused notifies) := by
  cases op with
  | get key => rfl
  | add key value =>
    have hne : (⟨key, value⟩ : Entry) ≠ .blank := fun he => h (congrArg some he)
    rw [step, add_zero_nil, if_neg hne]
    rfl
  | addCollect key value =>
    have hne : (⟨key, value⟩ : Entry) ≠ .blank := fun he => h (congrArg some he)
    rw [step, add_zero_nil, if_neg hne]
    rfl

/-- unless it stores the entry that costs nothing. -/
theorem size_step_zero_nil (h : op.entry? = some .blank) :
    (step 0 notifies [] op).2.size = 1 := by
  cases op with
  | get key => cases h
  | add key value =>
    rw [step, add_zero_nil, if_pos (Option.some.inj h)]
    rfl
  | addCollect key value =>
    rw [step, add_zero_nil, if_pos (Option.some.inj h)]
    rfl

end Recency

namespace Lru.Fits

variable {c : Lru} {op : Op}

theorem step_zero (h : Fits 0 c []) (notifies : Bool) (hop : op.entry? ≠ some .blank) :
    (c.step notifies op).2 = op.refused notifies ∧ Fits 0 (c.step notifies op).1 [] := by
  have hstep := h.step notifies op
  rwa [Recency.step_zero_nil hop] at hstep

theorem size_step_zero (h : Fits 0 c []) (notifies : Bool) (hop : op.entry? = some .blank) :
    (c.step notifies op).2.size = 1 := by
  rw [(h.step notifies op).1, Recency.size_step_zero_nil hop]

end Lru.Fits

/-! ## Stores -/

namespace Store

/-- What can be done to a store from outside. -/
inductive Op where
  /-- Look a key up. -/
  | get (key : String)
  /-- Store a value. -/
  | add (key : String) (value : Value)
  deriving DecidableEq, Repr

/-- What can be seen of an operation: the value found, or the entries that the hook was called with,
in the order of the calls; and what the store tells of itself afterwards. -/
structure Sight where
  reply : Lru.Reply
  size : Nat
  isEmpty : Bool
  bytes : Nat
  items : Nat
  deriving DecidableEq, Repr

/-- What can be seen of a store after an operation with the given result. -/
def sight (s : Store) (reply : Lru.Reply) : Sight :=
  ⟨reply, s.size, s.isEmpty, s.stats.bytes, s.stats.items⟩

/-- An operation on a store whose hook only takes note. -/
def step (s : Store) : Op → Store × Sight
  | .get key => ((s.get key).1, (s.get key).1.sight (.found (s.get key).2))
  | .add key value =>
    let t := s.addReporting Hook.quiet key value
    (t.store, t.store.sight (.reported t.reported.reverse))

/-- What is seen of the cache of a store, seen of the store. -/
def Sight.ofLru (s : Lru.Sight) : Sight := ⟨s.reply, s.size, s.isEmpty, s.used, s.size⟩

/-- The same operation on the cache of the store. -/
def Op.toLru : Op → Lru.Op
  | .get key => .get key
  | .add key value => .add key value

/-- What can be seen of an operation on a store that keeps nothing. -/
def Op.refused (op : Op) : Sight := .ofLru (op.toLru.refused true)

end Store

/-- A hook that only takes note is called with what is to be reported, and with nothing else. -/
theorem Session.run_quiet (store : Store) (es reported : List Entry) {n : Nat}
    (h : 2 * es.length ≤ n) :
    Session.run Hook.quiet n ⟨store, es.map .report, reported⟩ =
      ⟨store, [], es.reverse ++ reported⟩ := by
  induction es generalizing reported n with
  | nil => cases n <;> rfl
  | cons e es ih =>
    -- A report and the end of the reaction to it are two tasks.
    rw [List.length_cons] at h
    obtain ⟨n, rfl⟩ : ∃ m, n = m + 2 := ⟨n - 2, by omega⟩
    show Session.run Hook.quiet n ⟨store, es.map .report, e :: reported⟩ = _
    rw [ih (e :: reported) (by omega), List.reverse_cons, List.append_assoc]
    rfl

namespace Store

/-- **A hook that only takes note** is called with what an insertion evicts, in order. -/
theorem Sound.addReporting_quiet {s : Store} (h : s.Sound) (key : String) (value : Value) :
    s.addReporting Hook.quiet key value =
      ⟨(s.add key value).1, [], (s.add key value).2.reverse⟩ := by
  -- An entry takes two tasks, and no more are evicted than there are with the new one.
  have hlength : (s.add key value).1.size + (s.add key value).2.length ≤ s.size + 1 := by
    cases hk : s.find? key with
    | none => exact Nat.le_of_eq (h.size_add hk value)
    | some v =>
      rw [h.size_add_of_isSome (Option.isSome_iff_exists.mpr ⟨v, hk⟩) value]
      exact Nat.le_succ _
  have hsize : s.size = s.lru.size := rfl
  have heffort : 2 * (s.add key value).2.length ≤ s.effort value.size := by
    rw [effort]
    omega
  show Session.run Hook.quiet (s.effort value.size)
    ⟨(s.add key value).1, (s.add key value).2.map .report, []⟩ = _
  rw [Session.run_quiet _ _ _ heffort, List.append_nil]

/-- **A store shows what its cache shows** of an operation. -/
theorem Sound.step {s : Store} (h : s.Sound) (op : Op) :
    (s.step op).1.lru = (s.lru.step true op.toLru).1 ∧
      (s.step op).2 = .ofLru (s.lru.step true op.toLru).2 := by
  cases op with
  | get key => exact ⟨rfl, rfl⟩
  | add key value =>
    have hstep : s.step (.add key value) =
        ((s.add key value).1, (s.add key value).1.sight (.reported (s.add key value).2)) := by
      simp only [Store.step, h.addReporting_quiet, List.reverse_reverse]
    rw [hstep]
    exact ⟨rfl, rfl⟩

end Store

/-! ## What is refused -/

/-- A cache without room refuses everything up to the entry that costs nothing. -/
theorem Lru.transcript_zero_iff (notifies : Bool) (ops : List Op) :
    transcript (Lru.step notifies) (.empty 0) ops = ops.map (Op.refused notifies) ↔
      ∀ op ∈ ops, op.entry? ≠ some .blank := by
  refine transcript_eq_map_iff (J := fun c => c.Fits 0 []) (fun {c} hc op => ⟨?_, ?_⟩)
    (fun hc _ hop => (hc.step_zero notifies hop).2) (.empty 0) ops
  · -- The entry that costs nothing is there after it is stored.
    intro hrefused hop
    have hsize := hc.size_step_zero notifies hop
    rw [hrefused] at hsize
    cases hsize
  · exact fun hop => (hc.step_zero notifies hop).1

/-- So does a store. -/
theorem Store.transcript_zero_iff (ops : List Op) :
    transcript Store.step (.empty 0) ops = ops.map Op.refused ↔
      ∀ op ∈ ops, op.toLru.entry? ≠ some .blank := by
  refine transcript_eq_map_iff (J := fun s : Store => s.lru.Fits 0 []) (fun {s} hs op => ⟨?_, ?_⟩)
    (fun {s} hs op hop => ?_) (.empty 0) ops
  · intro hrefused hop
    have hsize := hs.size_step_zero true hop
    have hsight : 0 = (s.lru.step true op.toLru).2.size :=
      congrArg Sight.size (hrefused.symm.trans (Sound.step ⟨_, hs.1⟩ op).2)
    rw [hsize] at hsight
    cases hsight
  · intro hop
    rw [(Sound.step ⟨_, hs.1⟩ op).2, (hs.step_zero true hop).1]
    rfl
  · rw [(Sound.step ⟨_, hs.1⟩ op).1]
    exact (hs.step_zero true hop).2

/-- **Caches and stores without room** answer as if they kept nothing: no lookup finds anything,
each insertion is evicted and reported at once, by itself, and nothing is there afterwards. They do
so as long as the entry that costs nothing is not stored, and no longer. -/
theorem disabled_iff (notifies : Bool) (ops : List Lru.Op) (calls : List Store.Op) :
    (transcript (Lru.step notifies) (.empty 0) ops = ops.map (Lru.Op.refused notifies) ↔
      ∀ op ∈ ops, op.entry? ≠ some .blank) ∧
    (transcript Store.step (.empty 0) calls = calls.map Store.Op.refused ↔
      ∀ call ∈ calls, call.toLru.entry? ≠ some .blank) :=
  ⟨Lru.transcript_zero_iff notifies ops, Store.transcript_zero_iff calls⟩

/-- The entry that costs nothing is kept, and the next insertion evicts it before its own. -/
theorem not_disabled :
    transcript (Lru.step true) (.empty 0) [.add "" .empty, .add "k" .empty] =
        [⟨.reported [], 1, false, 0, some ""⟩,
          ⟨.reported [.blank, ⟨"k", .empty⟩], 0, true, 0, none⟩] ∧
      transcript (Lru.step true) (.empty 0) [.add "" .empty, .add "k" .empty] ≠
        [.add "" .empty, .add "k" .empty].map (Lru.Op.refused true) := by
  have hsights := (Lru.refines_recency 0 true [.add "" .empty, .add "k" .empty]).sights
  rw [hsights]
  decide

end ReadThrough
