import ReadThrough.Lru.Slots
import ReadThrough.Store.Stats

/-!
# Stores

A store keeps the recently used values of one group and counts what happens to them. Each
operation here is one that nothing comes between.

## Main definitions

* `Store`: cached entries with their counts
* `Store.get s key`: a counted lookup
* `Store.add s key value`: an insertion, with the evicted entries in order
* `Store.stats s`: the counts together with what is held now
-/

namespace ReadThrough

/-- Cached entries with their counts. -/
structure Store where
  /-- The entries, in order of use. -/
  lru : Lru
  /-- The lookups and evictions so far. -/
  counts : Store.Stats

namespace Store

/-- Nothing cached, with room for `budget` bytes. -/
def empty (budget : Nat) : Store := ⟨.empty budget, {}⟩

/-- Looks a key up and counts the lookup. -/
def get (s : Store) (key : String) : Store × Option Value :=
  let (lru, value) := s.lru.get key
  (⟨lru, s.counts.recordGet value.isSome⟩, value)

/-- Stores a value and counts the entries this evicts. -/
def add (s : Store) (key : String) (value : Value) : Store × List Entry :=
  let (lru, evicted) := s.lru.add key value
  (⟨lru, s.counts.recordEvictions evicted.length⟩, evicted)

/-- Number of entries. -/
def size (s : Store) : Nat := s.lru.size

/-- There is no entry. -/
def isEmpty (s : Store) : Bool := s.lru.isEmpty

/-- The counts so far and what is held now. -/
def stats (s : Store) : Stats := { s.counts with bytes := s.lru.used, items := s.lru.size }

/-- The store in words; `notifies` tells whether evictions are reported to anyone. -/
def describe (s : Store) (notifies : Bool) : String :=
  Text.record "CacheStore"
    [("inner", Text.record "StoreInner" [("lru", s.lru.describe), ("stats", s.counts.describe)]),
      ("on_evicted", toString notifies)]

end Store

end ReadThrough
