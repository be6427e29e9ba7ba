import ReadThrough.Text.Quoted

/-!
# What a store has counted

## Main definitions

* `Store.Stats`: what a store holds and how its lookups went
* `Store.Stats.hitRate s`: the share of lookups answered
-/

namespace ReadThrough.Store

/-- What a store holds and how its lookups went. -/
structure Stats where
  /-- Bytes of the keys and values held. -/
  bytes : Nat := 0
  /-- Entries held. -/
  items : Nat := 0
  /-- Lookups. -/
  gets : Nat := 0
  /-- Lookups answered. -/
  hits : Nat := 0
  /-- Entries evicted. -/
  evictions : Nat := 0
  deriving DecidableEq, Repr, Inhabited

namespace Stats

/-- Counts a lookup, and whether it was answered. -/
def recordGet (s : Stats) (hit : Bool) : Stats :=
  { s with gets := s.gets + 1, hits := if hit then s.hits + 1 else s.hits }

/-- Counts evicted entries. -/
def recordEvictions (s : Stats) (n : Nat) : Stats := { s with evictions := s.evictions + n }

/-- The share `part` has in `whole`, and nothing of nothing. -/
def share (part whole : Nat) : Float := if whole = 0 then 0 else part.toFloat / whole.toFloat

/-- The share of lookups that were answered. -/
def hitRate (s : Stats) : Float := share s.hits s.gets

/-- The counts in words. -/
def describe (s : Stats) : String :=
  Text.record "CacheStats" [("bytes", toString s.bytes), ("items", toString s.items),
    ("gets", toString s.gets), ("hits", toString s.hits), ("evictions", toString s.evictions)]

end Stats

end ReadThrough.Store
