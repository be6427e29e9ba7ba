import Std.Data.HashMap
import ReadThrough.Value

/-!
# The least recently used entries of a byte budget

Entries live in the slots of an array. A live slot is linked to the slots of the entries used just
before and just after its own, an index finds the slot of a key, and the slots of evicted entries
are kept for the next insertion. After an insertion the least recently used entries are evicted
until the entries that remain cost no more than the budget; under a budget of nothing an entry that
costs anything is evicted at once.

## Main definitions

* `Lru`: the entries, in order of use
* `Lru.get c key`: the value of a key, which becomes the most recently used
* `Lru.add c key value`: the insertion of an entry, with the evicted entries in order
* `Lru.oldestKey? c`: the key to be evicted next
-/

namespace ReadThrough

/-- A place for an entry, linked to its neighbours in order of use. -/
structure Slot where
  /-- The entry in the slot. -/
  entry : Entry
  /-- The slot of the entry used next after this one. -/
  newer : Option Nat
  /-- The slot of the entry used last before this one. -/
  older : Option Nat

/-- An emptied slot. Its links lead to the first slot until they are set again. -/
instance : Inhabited Slot := ⟨⟨default, some 0, some 0⟩⟩

/-- Entries in order of use, bounded by a byte budget. -/
structure Lru where
  /-- The cost the entries may reach together. -/
  budget : Nat
  /-- The cost of all entries together. -/
  used : Nat
  /-- Every slot that was ever in use. -/
  slots : Array Slot
  /-- The vacant slots, the one vacated last in front. -/
  free : List Nat
  /-- The slot of each key. -/
  index : Std.HashMap String Nat
  /-- The slot of the most recently used entry. -/
  newest : Option Nat
  /-- The slot of the least recently used entry. -/
  oldest : Option Nat

namespace Lru

/-- No entries, with room for `budget` bytes. -/
def empty (budget : Nat) : Lru := ⟨budget, 0, #[], [], ∅, none, none⟩

/-- Number of entries. -/
def size (c : Lru) : Nat := c.index.size

/-- There is no entry. -/
def isEmpty (c : Lru) : Bool := c.index.isEmpty

/-- The key of the least recently used entry. -/
def oldestKey? (c : Lru) : Option String :=
  c.oldest.bind fun i => c.slots[i]?.map (·.entry.key)

/-! ## Links -/

/-- Makes `older` the slot after slot `i` on the way to the oldest entry; without a slot `i`,
`older` becomes the newest. -/
def setOlder (c : Lru) (i : Option Nat) (older : Option Nat) : Lru :=
  match i with
  | some i => { c with slots := c.slots.modify i ({ · with older }) }
  | none => { c with newest := older }

/-- Makes `newer` the slot before slot `i` on the way to the newest entry; without a slot `i`,
`newer` becomes the oldest. -/
def setNewer (c : Lru) (i : Option Nat) (newer : Option Nat) : Lru :=
  match i with
  | some i => { c with slots := c.slots.modify i ({ · with newer }) }
  | none => { c with oldest := newer }

/-- Links the neighbours of slot `i` to each other. -/
def unlink (c : Lru) (i : Nat) : Lru :=
  match c.slots[i]? with
  | some s => (c.setOlder s.newer s.older).setNewer s.older s.newer
  | none => c

/-- Links slot `i` in as that of the most recently used entry. -/
def pushNewest (c : Lru) (i : Nat) : Lru :=
  let former := c.newest
  let c := { c with slots := c.slots.modify i ({ · with newer := none, older := former }) }
  { c.setNewer former (some i) with newest := some i }

/-- Makes the entry of slot `i` the most recently used. -/
def touch (c : Lru) (i : Nat) : Lru :=
  if c.newest = some i then c else (c.unlink i).pushNewest i

/-- Puts an entry into a vacant slot, or into a new one if there is none. -/
def place (c : Lru) (e : Entry) : Lru × Nat :=
  let s : Slot := ⟨e, none, none⟩
  match c.free with
  | i :: free => ({ c with slots := c.slots.modify i fun _ => s, free }, i)
  | [] => ({ c with slots := c.slots.push s }, c.slots.size)

/-! ## Eviction -/

/-- Takes out the least recently used entry. -/
def evict? (c : Lru) : Option (Lru × Entry) :=
  c.oldest.bind fun i =>
    c.slots[i]?.map fun s =>
      let c := c.unlink i
      -- The slot is emptied, so that nothing keeps the entry alive, and goes to the vacant ones.
      ({ c with
          used := c.used - s.entry.cost
          slots := c.slots.modify i fun _ => default
          free := i :: c.free
          index := c.index.erase s.entry.key },
        s.entry)

/-- Evicts entries until those that remain fit the budget, at most `n` of them. -/
def shrink : Nat → Lru → Lru × List Entry
  | 0, c => (c, [])
  | n + 1, c =>
    if c.used ≤ c.budget then (c, [])
    else
      match c.evict? with
      | some (c, e) =>
        let (c, es) := shrink n c
        (c, e :: es)
      | none => (c, [])

/-! ## Looking up and inserting -/

/-- The value of a key, which becomes the most recently used. -/
def get (c : Lru) (key : String) : Lru × Option Value :=
  match c.index[key]? with
  | some i => (c.touch i, c.slots[i]?.map (·.entry.value))
  | none => (c, none)

/-- The entries with `value` under `key`, which becomes the most recently used, before anything is
evicted. -/
def put (c : Lru) (key : String) (value : Value) : Lru :=
  match c.index[key]? with
  | some i =>
    -- The key stays charged for; of the values, the new one is instead of the former.
    let former := (c.slots[i]?.map (·.entry.value.size)).getD 0
    let c := { c with
      used := c.used + value.size - former
      slots := c.slots.modify i fun s => { s with entry := { s.entry with value } } }
    c.touch i
  | none =>
    let (c, i) := { c with used := c.used + (key.utf8ByteSize + value.size) }.place ⟨key, value⟩
    { c with index := c.index.insert key i }.pushNewest i

/-- Stores `value` under `key`, then evicts down to the budget. Every eviction vacates a slot, so
there are no more of them than slots. -/
def add (c : Lru) (key : String) (value : Value) : Lru × List Entry :=
  let c := c.put key value
  c.shrink c.slots.size

/-- The cache in words. -/
def describe (c : Lru) : String :=
  Text.record "LruCache" [("max_bytes", toString c.budget), ("used_bytes", toString c.used),
    ("len", toString c.size)]

end Lru

end ReadThrough
