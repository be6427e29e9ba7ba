import ReadThrough.Lru.Slots

/-!
# Caches on machine words

The operations on a cache as they are carried out by a machine that takes nothing for granted. It
reads and writes a slot only if one has the number, it adds and subtracts bytes only if the result
is a word, and it gives no slot the number that is kept to say that there is none. Where any of this
fails it stops, and it stops as well where the budget is exceeded and no entry is left.

## Main definitions

* `Lru.Trap`: what stops the machine
* `Lru.Checked.get`, `Lru.Checked.add`: a lookup and an insertion
* `Lru.Checked.oldestKey?`: the key to be evicted next
-/

namespace ReadThrough.Lru

/-- How many words of 64 bits there are. The last is no slot's number: it says there is none. -/
def words : Nat := UInt64.size

/-- What stops the machine. -/
inductive Trap where
  /-- No slot has the number. -/
  | noSlot (i : Nat)
  /-- There is no number for another slot. -/
  | noNumber
  /-- A sum of bytes is no word. -/
  | overflow
  /-- A difference of bytes is negative. -/
  | underflow
  /-- No entry is left to be evicted, but the budget is exceeded. -/
  | noEntry
  /-- The budget is exceeded after as many evictions as there are slots. -/
  | unending
  deriving DecidableEq, Repr

namespace Checked

/-! ## Words and slots -/

/-- The sum of two words. -/
def plus (a b : Nat) : Except Trap Nat := if a + b < words then .ok (a + b) else .error .overflow

/-- The difference of two words. -/
def minus (a b : Nat) : Except Trap Nat := if b ≤ a then .ok (a - b) else .error .underflow

/-- The slot with the number `i`. -/
def read (c : Lru) (i : Nat) : Except Trap Slot :=
  match c.slots[i]? with
  | some s => .ok s
  | none => .error (.noSlot i)

/-- Changes the slot with the number `i`. -/
def modify (c : Lru) (i : Nat) (f : Slot → Slot) : Except Trap Lru :=
  if i < c.slots.size then .ok { c with slots := c.slots.modify i f } else .error (.noSlot i)

/-! ## Links -/

/-- Makes `older` the slot after slot `i`, or the newest if there is no slot `i`. -/
def setOlder (c : Lru) (i : Option Nat) (older : Option Nat) : Except Trap Lru :=
  match i with
  | some i => modify c i ({ · with older })
  | none => .ok { c with newest := older }

/-- Makes `newer` the slot before slot `i`, or the oldest if there is no slot `i`. -/
def setNewer (c : Lru) (i : Option Nat) (newer : Option Nat) : Except Trap Lru :=
  match i with
  | some i => modify c i ({ · with newer })
  | none => .ok { c with oldest := newer }

/-- Links the neighbours of slot `i` to each other. -/
def unlink (c : Lru) (i : Nat) : Except Trap Lru := do
  let s ← read c i
  setNewer (← setOlder c s.newer s.older) s.older s.newer

/-- Links slot `i` in as that of the most recently used entry. -/
def pushNewest (c : Lru) (i : Nat) : Except Trap Lru := do
  let former := c.newest
  let c ← modify c i ({ · with newer := none, older := former })
  let c ← setNewer c former (some i)
  return { c with newest := some i }

/-- Makes the entry of slot `i` the most recently used. -/
def touch (c : Lru) (i : Nat) : Except Trap Lru :=
  if c.newest = some i then .ok c else do pushNewest (← unlink c i) i

/-- Puts an entry into a vacant slot, or into a new one if there is none. -/
def place (c : Lru) (e : Entry) : Except Trap (Lru × Nat) :=
  let s : Slot := ⟨e, none, none⟩
  match c.free with
  | i :: free => do
    let c ← modify { c with free } i fun _ => s
    return (c, i)
  | [] =>
    if c.slots.size + 1 < words then .ok ({ c with slots := c.slots.push s }, c.slots.size)
    else .error .noNumber

/-! ## Eviction -/

/-- Takes out the least recently used entry, if there is one. -/
def evict? (c : Lru) : Except Trap (Option (Lru × Entry)) :=
  match c.oldest with
  | none => .ok none
  | some i => do
    let c ← unlink c i
    let s ← read c i
    let c ← modify c i fun _ => default
    let used ← minus c.used (← plus s.entry.key.utf8ByteSize s.entry.value.size)
    return some ({ c with used, free := i :: c.free, index := c.index.erase s.entry.key }, s.entry)

/-- Evicts entries until those that remain fit the budget, at most `n` of them. -/
def shrink : Nat → Lru → Except Trap (Lru × List Entry)
  | 0, c => if c.used ≤ c.budget then .ok (c, []) else .error .unending
  | n + 1, c =>
    if c.used ≤ c.budget then .ok (c, [])
    else do
      match ← evict? c with
      | some (c, e) =>
        let (c, es) ← shrink n c
        return (c, e :: es)
      | none => .error .noEntry

/-! ## Looking up and inserting -/

/-- The value of a key, which becomes the most recently used. -/
def get (c : Lru) (key : String) : Except Trap (Lru × Option Value) :=
  match c.index[key]? with
  | some i => do
    let c ← touch c i
    let s ← read c i
    return (c, some s.entry.value)
  | none => .ok (c, none)

/-- The entries with `value` under `key`, before anything is evicted. -/
def put (c : Lru) (key : String) (value : Value) : Except Trap Lru :=
  match c.index[key]? with
  | some i => do
    let former ← read c i
    -- For a moment the new value is charged for as well as the former.
    let used ← minus (← plus c.used value.size) former.entry.value.size
    let c ← modify { c with used } i fun s => { s with entry := { s.entry with value } }
    touch c i
  | none => do
    let used ← plus c.used (← plus key.utf8ByteSize value.size)
    let (c, i) ← place { c with used } ⟨key, value⟩
    pushNewest { c with index := c.index.insert key i } i

/-- Stores `value` under `key`, then evicts down to the budget. -/
def add (c : Lru) (key : String) (value : Value) : Except Trap (Lru × List Entry) := do
  let c ← put c key value
  shrink c.slots.size c

/-- The key of the least recently used entry. -/
def oldestKey? (c : Lru) : Except Trap (Option String) :=
  match c.oldest with
  | none => .ok none
  | some i => do
    let s ← read c i
    return some s.entry.key

end Checked

end ReadThrough.Lru
