import ReadThrough.Fault
import ReadThrough.Group.Counters
import ReadThrough.Store.Basic
import ReadThrough.Text.Duration

/-!
# Groups

A group is a named cache: a store of its own in front of a loader, and possibly of peers that own
some of the keys. A lookup looks into the store; on a miss it looks once more when it leads the
load of its key; then it asks the peer that owns the key, if there is one, and the loader if there
is none or the peer fails. What a source answers goes into the store on its way to the callers.

Each operation on a group is one that nothing comes between.

## Main definitions

* `Group`: a store with its counts, and the limit of a load
* `Group.look`, `Group.lookAgain`: the two looks into the store
* `Side`, `Group.receive`: the sources, and what a group makes of an answer
-/

namespace ReadThrough

/-- A source a group can ask. -/
inductive Side where
  /-- The peer with this name. -/
  | peer (name : String)
  /-- The group's own loader. -/
  | loader
  deriving DecidableEq, Repr

/-- What a lookup ends in. -/
abbrev Outcome := Except Fault Value

instance : DecidableEq Outcome
  | .ok v, .ok w => if h : v = w then isTrue (h ▸ rfl) else isFalse fun e => h (Except.ok.inj e)
  | .error f, .error g =>
    if h : f = g then isTrue (h ▸ rfl) else isFalse fun e => h (Except.error.inj e)
  | .ok _, .error _ => isFalse nofun
  | .error _, .ok _ => isFalse nofun

/-- A named cache. -/
structure Group where
  /-- The name. -/
  name : String
  /-- The milliseconds after which a load is given up, if any. -/
  limit : Option Nat
  /-- The cached values. -/
  store : Store
  /-- How lookups were answered. -/
  counters : Group.Counters
  /-- Peers have been registered. -/
  hasPeers : Bool

namespace Group

/-- A group with nothing cached. -/
def create (name : String) (cacheBytes : Nat) (limit : Option Nat) : Group :=
  ⟨name, limit, .empty cacheBytes, {}, false⟩

/-- Counts one more. -/
def record (g : Group) (counter : Counter) : Group :=
  { g with counters := g.counters.record counter }

/-- Registers peers, which a group does once. -/
def registerPeers (g : Group) : Except Fault Group :=
  if g.hasPeers then .error (.config ("peer picker already registered for group " ++ g.name))
  else .ok { g with hasPeers := true }

/-! ## Looking into the store -/

/-- A lookup begins: it is answered from the store, or refused for want of a key, or it has to be
loaded. -/
def look (g : Group) (key : String) : Group × Option Outcome :=
  let g := g.record .gets
  if key = "" then (g, some (.error (.invalidKey "key is required")))
  else
    match g.store.get key with
    | (store, some value) => ({ g with store }.record .cacheHits, some (.ok value))
    | (store, none) => ({ g with store }.record .loads, none)

/-- The leader of a load looks once more: a load that has just ended may have stored the value. -/
def lookAgain (g : Group) (key : String) : Group × Option Value :=
  match g.store.get key with
  -- Another load stored the value between the first look and this one.
  | (store, some value) => ({ g with store }.record .cacheHits, some value)
  | (store, none) => ({ g with store }.record .executions, none)

/-! ## Asking sources -/

/-- The group with a value that was loaded. -/
def populate (g : Group) (key : String) (value : Value) : Group :=
  { g with store := (g.store.add key value).1 }

/-- The source a load asks first. -/
def firstSide (g : Group) (pick : Option String) : Side :=
  match if g.hasPeers then pick else none with
  | some name => .peer name
  | none => .loader

/-- A source has answered: the outcome of the load, or none if the loader is to be asked next. -/
def receive (g : Group) (key : String) : Side → Outcome → Group × Option Outcome
  | .peer _, .ok value => ((g.record .peerLoads).populate key value, some (.ok value))
  | .peer _, .error fault =>
    if fault.recoverable then (g.record .peerErrors, none) else (g, some (.error fault))
  | .loader, .ok value => ((g.record .localLoads).populate key value, some (.ok value))
  | .loader, .error fault => (g.record .localErrors, some (.error fault))

/-- The outcome of a load that took longer than `limit`. -/
def overdue (key : String) (limit : Nat) : Outcome :=
  .error (.timeout ("loading " ++ key ++ " exceeded " ++ Text.Duration.describe limit))

/-- The group in words. -/
def describe (g : Group) : String :=
  Text.record "Group" [("name", Text.quote g.name), ("main_cache", g.store.describe false),
    ("has_peers", toString g.hasPeers),
    ("load_timeout", match g.limit with
      | some ms => "Some(" ++ Text.Duration.describe ms ++ ")"
      | none => "None")]

end Group

end ReadThrough
