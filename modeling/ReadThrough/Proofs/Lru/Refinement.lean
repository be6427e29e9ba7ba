import ReadThrough.Proofs.Lru.Layout
import ReadThrough.Proofs.Run

/-!
# The cache as a list in order of use

Whatever is done to a cache, and in whatever order, nobody who uses it can tell it from the list of
its entries in order of use: all results, all reports to its owner, and all that it tells of itself
are the same. So what holds of the list holds of the slots.

## Main definitions

* `Lru.Op`, `Lru.Sight`: what can be done to a cache, and what can be seen of it
* `Lru.step notifies`, `Recency.step budget notifies`: an operation on the slots, and on the list
* `Lru.Refines budget notifies ops`: what is known of a cache after operations

## Main results

* `Lru.Shows.step`: an operation does the same to the slots and to the list
* `Lru.refines_recency`: so do any operations, one after the other
-/

namespace ReadThrough

namespace Lru

/-- What can be done to a cache. -/
inductive Op where
  /-- Look a key up. -/
  | get (key : String)
  /-- Store a value, and report what this evicts to the owner of the cache. -/
  | add (key : String) (value : Value)
  /-- Store a value, and get back what this evicts. -/
  | addCollect (key : String) (value : Value)
  deriving DecidableEq, Repr

/-- What an operation results in. -/
inductive Reply where
  /-- The value looked up, if there is one. -/
  | found (value : Option Value)
  /-- The entries reported to the owner, one call for each, in the order of the calls. -/
  | reported (calls : List Entry)
  /-- The entries evicted, in order. -/
  | collected (evicted : List Entry)
  deriving DecidableEq, Repr

/-- What can be seen of an operation: its result, and what the cache tells of itself afterwards. -/
structure Sight where
  reply : Reply
  size : Nat
  isEmpty : Bool
  used : Nat
  oldestKey? : Option String
  deriving DecidableEq, Repr

/-- The reports of evicted entries, if the owner wants any. -/
def reports (notifies : Bool) (evicted : List Entry) : List Entry :=
  if notifies then evicted else []

/-- What can be seen of a cache after an operation with the given result. -/
def sight (c : Lru) (reply : Reply) : Sight := ⟨reply, c.size, c.isEmpty, c.used, c.oldestKey?⟩

/-- An operation on a cache. -/
def step (notifies : Bool) (c : Lru) : Op → Lru × Sight
  | .get key => ((c.get key).1, (c.get key).1.sight (.found (c.get key).2))
  | .add key value =>
    ((c.add key value).1,
      (c.add key value).1.sight (.reported (reports notifies (c.add key value).2)))
  | .addCollect key value =>
    ((c.add key value).1, (c.add key value).1.sight (.collected (c.add key value).2))

end Lru

namespace Recency

open Lru (Op Reply Sight)

/-- What can be seen of a list of entries in order of use. -/
def sight (es : List Entry) (reply : Reply) : Sight :=
  ⟨reply, es.length, es.isEmpty, weight es, es.getLast?.map (·.key)⟩

/-- An operation on a list of entries in order of use. -/
def step (budget : Nat) (notifies : Bool) (es : List Entry) : Op → List Entry × Sight
  | .get key => (touch es key, sight (touch es key) (.found (lookup es key)))
  | .add key value =>
    ((add budget es key value).1,
      -- One call for each entry taken off the back, in this order, if anybody wants to know.
      sight (add budget es key value).1
        (.reported (if notifies then (add budget es key value).2 else [])))
  | .addCollect key value =>
    ((add budget es key value).1,
      sight (add budget es key value).1 (.collected (add budget es key value).2))

end Recency

namespace Lru

open Recency (weight)

variable {c : Lru} {es : List Entry} {budget : Nat} {notifies : Bool} {key : String} {value : Value}

/-! ## What a cache tells of itself -/

theorem Layout.oldestKey?_eq {chain : List (Nat × Entry)} (h : Layout c chain) :
    c.oldestKey? = (chain.map Prod.snd).getLast?.map (·.key) := by
  rw [oldestKey?, h.chained.oldest]
  rcases List.eq_nil_or_concat chain with rfl | ⟨l, ⟨i, e⟩, rfl⟩
  · rfl
  · rw [List.concat_eq_append] at h ⊢
    rw [last_append, List.map_append, List.map_singleton, List.getLast?_concat]
    show (c.slots[i]?.map (·.entry.key)) = some e.key
    rw [h.chained.slot]
    rfl

namespace Shows

theorem isEmpty_eq (h : Shows c es) : c.isEmpty = es.isEmpty := by
  have hsize : c.index.size = es.length := h.size_eq
  rw [Lru.isEmpty, Std.HashMap.isEmpty_eq_size_eq_zero, hsize]
  cases es <;> rfl

theorem sight_eq (h : Shows c es) (reply : Reply) : c.sight reply = Recency.sight es reply := by
  obtain ⟨chain, hl, rfl⟩ := id h
  rw [sight, Recency.sight, h.size_eq, h.isEmpty_eq, h.used_eq, hl.oldestKey?_eq]

/-- **An operation does the same to the slots and to the list.** -/
theorem step (h : Shows c es) (notifies : Bool) (op : Op) :
    (c.step notifies op).2 = (Recency.step c.budget notifies es op).2 ∧
      Shows (c.step notifies op).1 (Recency.step c.budget notifies es op).1 ∧
      (c.step notifies op).1.budget = c.budget := by
  cases op with
  | get key =>
    obtain ⟨hvalue, hshows, hbudget⟩ := h.get key
    refine ⟨?_, hshows, hbudget⟩
    show (c.get key).1.sight _ = _
    rw [hshows.sight_eq, hvalue]
    rfl
  | add key value =>
    obtain ⟨hshows, hout, hbudget⟩ := h.add key value
    refine ⟨?_, hshows, hbudget⟩
    show (c.add key value).1.sight _ = _
    rw [hshows.sight_eq, hout]
    rfl
  | addCollect key value =>
    obtain ⟨hshows, hout, hbudget⟩ := h.add key value
    refine ⟨?_, hshows, hbudget⟩
    show (c.add key value).1.sight _ = _
    rw [hshows.sight_eq, hout]
    rfl

end Shows

/-! ## Any operations, one after the other -/

/-- The entries of `c` are `es`, which fit its budget. -/
def Fits (budget : Nat) (c : Lru) (es : List Entry) : Prop :=
  Shows c es ∧ c.budget = budget ∧ weight es ≤ budget

theorem Fits.empty (budget : Nat) : Fits budget (.empty budget) [] :=
  ⟨.empty budget, rfl, Nat.zero_le _⟩

theorem Fits.step (h : Fits budget c es) (notifies : Bool) (op : Op) :
    (c.step notifies op).2 = (Recency.step budget notifies es op).2 ∧
      Fits budget (c.step notifies op).1 (Recency.step budget notifies es op).1 := by
  obtain ⟨hshows, rfl, hfit⟩ := h
  obtain ⟨hsight, hshows', hbudget⟩ := hshows.step notifies op
  refine ⟨hsight, hshows', hbudget, ?_⟩
  cases op with
  | get key =>
    -- A lookup only moves an entry.
    show weight (Recency.touch es key) ≤ c.budget
    rwa [Recency.weight_perm (Recency.touch_perm hshows.keys_nodup key)]
  | add key value => exact Recency.weight_add_le c.budget es key value
  | addCollect key value => exact Recency.weight_add_le c.budget es key value

/-- What is known of a cache with the given budget after operations. -/
structure Refines (budget : Nat) (notifies : Bool) (ops : List Op) (c : Lru) (es : List Entry) :
    Prop where
  /-- All that could be seen is the same as for the list. -/
  sights : transcript (Lru.step notifies) (Lru.empty budget) ops =
    transcript (Recency.step budget notifies) [] ops
  /-- No key has two entries. -/
  keys_nodup : (es.map (·.key)).Nodup
  /-- What is charged for is what is there. -/
  used_eq : c.used = (es.map fun e => e.key.utf8ByteSize + e.value.size).sum
  /-- What is there fits the budget. -/
  used_le : c.used ≤ budget
  /-- The next insertion evicts the entries at the back, in order, and no more of them than have to
  leave so that the others fit. -/
  evicted : ∀ key value, ∃ kept,
    Recency.put es key value = kept ++ (c.add key value).2.reverse ∧
      weight kept ≤ budget ∧
      ∀ kept' out, Recency.put es key value = kept' ++ out → weight kept' ≤ budget →
        (c.add key value).2.length ≤ out.length
  /-- An entry that does not fit by itself empties the cache, and is evicted last. -/
  oversized : ∀ key value, budget < Entry.cost ⟨key, value⟩ →
    (c.add key value).1.isEmpty ∧ (c.add key value).2.getLast? = some ⟨key, value⟩

/-- **The cache is a list in order of use.** Whatever is done to an empty cache, all that can be
seen of it is what can be seen of the list; so its entries fit the budget at any time, and an
insertion evicts the shortest part off the back that lets the others fit. -/
theorem refines_recency (budget : Nat) (notifies : Bool) (ops : List Op) :
    Refines budget notifies ops (stateAfter (Lru.step notifies) (Lru.empty budget) ops)
      (stateAfter (Recency.step budget notifies) [] ops) := by
  obtain ⟨hsights, hfits⟩ := transcript_eq_of_related (R := Fits budget)
    (fun h op => h.step notifies op) (Fits.empty budget) ops
  generalize stateAfter (Lru.step notifies) (Lru.empty budget) ops = c at hfits ⊢
  generalize stateAfter (Recency.step budget notifies) [] ops = es at hfits ⊢
  obtain ⟨hshows, rfl, hfit⟩ := hfits
  have hout : ∀ key value, (c.add key value).2 = (Recency.add c.budget es key value).2 :=
    fun key value => (hshows.add key value).2.1
  refine ⟨hsights, hshows.keys_nodup, hshows.used_eq, hshows.used_eq ▸ hfit, ?_, ?_⟩
  · intro key value
    rw [hout]
    refine ⟨(Recency.add c.budget es key value).1, ?_, ?_, ?_⟩
    · exact (Recency.add_append c.budget es key value).symm
    · exact Recency.weight_add_le c.budget es key value
    · intro kept' out hput hkept
      exact Recency.length_evicted_le hput hkept
  · intro key value hlt
    obtain ⟨hadd, hcollected, -⟩ := hshows.add key value
    rw [Recency.add_of_lt hlt] at hadd hcollected
    refine ⟨hadd.isEmpty_eq, ?_⟩
    rw [hcollected, Recency.put, List.reverse_cons, List.getLast?_concat]

/-- A lookup makes `"b"` the next to go, an entry that does not fit takes all others with it, and
what is collected is not reported. -/
def crowding : List Op :=
  [.add "a" (.ofText "1"), .add "b" (.ofText "2"), .get "a", .add "c" (.ofText "34"),
    .add "d" (.ofText "56789"), .addCollect "e" (.ofText "0"), .addCollect "f" (.ofText "123")]

/-- The owner is called with each evicted entry, in the order of eviction; if it wants no calls,
there are none. -/
theorem refines_recency_crowding :
    (transcript (Lru.step true) (Lru.empty 5) crowding).map (·.reply) =
        [.reported [], .reported [], .found (some (.ofText "1")),
          .reported [⟨"b", .ofText "2"⟩],
          .reported [⟨"a", .ofText "1"⟩, ⟨"c", .ofText "34"⟩, ⟨"d", .ofText "56789"⟩],
          .collected [], .collected [⟨"e", .ofText "0"⟩]] ∧
      (transcript (Lru.step false) (Lru.empty 5) crowding).map (·.reply) =
        [.reported [], .reported [], .found (some (.ofText "1")), .reported [], .reported [],
          .collected [], .collected [⟨"e", .ofText "0"⟩]] := by
  rw [(refines_recency 5 true crowding).sights, (refines_recency 5 false crowding).sights]
  decide

end Lru

end ReadThrough
