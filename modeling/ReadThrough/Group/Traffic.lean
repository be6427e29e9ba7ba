import ReadThrough.Flight.Gate
import ReadThrough.Group.Source

/-!
# Many callers at once

Callers look keys up in one group; whoever misses goes to the group's single-flight gate. The
leader of a flight looks into the store once more, asks the sources and stores what they answer.
Its limit runs from the moment it asks the first source: when it is over, a load that a source
keeps waiting ends in a fault for everyone who waits for it. A load that is taken over begins anew.

Steps interleave in any order. In `Traffic.quiesce` the caller that came first always moves first,
sources answer as the surroundings say, and time does not pass.

## Main definitions

* `Load`: how far a leader's load is
* `Traffic`: a group with its callers and the time
* `Traffic.Event`, `Traffic.step?`, `Traffic.Output`: the steps and what can be seen of them
* `Traffic.quiesce`: a run until nobody can move
-/

namespace ReadThrough

/-- How far a leader's load is. -/
inductive Load where
  /-- About to look into the store. -/
  | fresh
  /-- A source is being asked; the first one was asked at the given time. -/
  | asking (side : Side) (since : Nat)
  /-- A source keeps the load waiting. -/
  | awaiting (side : Side) (since : Nat)
  deriving DecidableEq, Repr

namespace Load

/-- A source keeps the load waiting, one of those asked for. -/
def awaits (asked : Side → Bool) : Load → Bool
  | .awaiting side _ => asked side
  | _ => false

/-- The source asked, and the time when the first one was asked. -/
def asked? : Load → Option (Side × Nat)
  | .fresh => none
  | .asking side since | .awaiting side since => some (side, since)

end Load

/-- A group with its callers and the time. -/
structure Traffic where
  /-- The group. -/
  group : Group
  /-- The callers whose lookups had to be loaded. -/
  gate : Gate Outcome Load
  /-- The time, in milliseconds. -/
  now : Nat

namespace Traffic

/-- A group without callers. -/
def ofGroup (g : Group) : Traffic := ⟨g, .empty, 0⟩

/-- What can be seen of a step. -/
inductive Output where
  /-- A source was asked for a key. -/
  | asked (side : Side) (key : String)
  /-- A lookup of a key was answered. -/
  | answered (key : String) (outcome : Outcome)
  deriving DecidableEq, Repr

/-- The steps of callers, sources and time. -/
inductive Event where
  /-- A caller looks a key up in the store. -/
  | look (key : String)
  /-- Caller `c` joins the flight for its key or leads one. -/
  | join (c : Nat)
  /-- Leader `c` looks into the store once more and then asks the owner of its key. -/
  | lookAgain (c : Nat) (owner : Option String)
  /-- The source leader `c` asked keeps it waiting. -/
  | hold (c : Nat)
  /-- The source leader `c` asked answers. -/
  | receive (c : Nat) (answer : Outcome)
  /-- The limit of leader `c` is over. -/
  | expire (c : Nat)
  /-- Leader `c` publishes its outcome. -/
  | publish (c : Nat)
  /-- Leader `c` retires its flight's record. -/
  | retire (c : Nat)
  /-- Waiting caller `c` hears from its flight. -/
  | wake (c : Nat)
  /-- Caller `c` is dropped while it waits for a flight or a source. -/
  | drop (c : Nat)
  /-- Time passes. -/
  | tick (ms : Nat)
  /-- Peers are registered with the group. -/
  | registerPeers
  /-- A request of a peer is counted. -/
  | countRequest
  deriving DecidableEq, Repr

/-! ## Steps -/

/-- The traffic with another state of its gate. -/
def withGate (t : Traffic) (gate : Gate Outcome Load) : Traffic := { t with gate }

/-- The key and the work of leader `c`. -/
def leading? (t : Traffic) (c : Nat) : Option (String × Load) :=
  t.gate.callers[c]?.bind fun caller =>
    match caller.phase with
    | .leading _ load => some (caller.key, load)
    | _ => none

/-- The answer of caller `c`, as an output. -/
def answer? (t : Traffic) (c : Nat) : List Output :=
  (t.gate.callers[c]?.bind fun caller =>
    caller.phase.outcome?.map (.answered caller.key)).toList

/-- The limit of a load that first asked at `since` is over. -/
def isOver (t : Traffic) (since : Nat) : Bool :=
  t.group.limit.any fun limit => since + limit ≤ t.now

/-- A caller looks a key up. -/
def look (t : Traffic) (key : String) : Traffic × List Output :=
  match t.group.look key with
  | (group, some outcome) => ({ t with group }, [.answered key outcome])
  | (group, none) => ({ t with group, gate := t.gate.arrive key .fresh }, [])

/-- Leader `c` looks once more and then asks the first source. -/
def lookAgain? (t : Traffic) (c : Nat) (owner : Option String) :
    Option (Traffic × List Output) := do
  let (key, .fresh) ← t.leading? c | none
  match t.group.lookAgain key with
  | (group, some value) =>
    let gate ← t.gate.settle? c (.ok value)
    return ({ t with group, gate }, [])
  | (group, none) =>
    let side := group.firstSide owner
    let gate ← t.gate.proceed? c (.asking side t.now)
    return ({ t with group, gate }, [.asked side key])

/-- The source leader `c` asked keeps it waiting. -/
def hold? (t : Traffic) (c : Nat) : Option (Traffic × List Output) := do
  let (_, .asking side since) ← t.leading? c | none
  let gate ← t.gate.proceed? c (.awaiting side since)
  return (t.withGate gate, [])

/-- The source leader `c` asked answers. -/
def receive? (t : Traffic) (c : Nat) (answer : Outcome) : Option (Traffic × List Output) := do
  let (key, load) ← t.leading? c
  let (side, since) ← load.asked?
  match t.group.receive key side answer with
  | (group, some outcome) =>
    let gate ← t.gate.settle? c outcome
    return ({ t with group, gate }, [])
  | (group, none) =>
    -- The limit keeps running from the moment the peer was asked.
    let gate ← t.gate.proceed? c (.asking .loader since)
    return ({ t with group, gate }, [.asked .loader key])

/-- The limit of leader `c` is over. -/
def expire? (t : Traffic) (c : Nat) : Option (Traffic × List Output) := do
  let (key, .awaiting _ since) ← t.leading? c | none
  let limit ← t.group.limit
  if t.isOver since then
    let gate ← t.gate.settle? c (Group.overdue key limit)
    return (t.withGate gate, [])
  else none

/-- Caller `c` is dropped while it waits for a flight or a source. -/
def drop? (t : Traffic) (c : Nat) : Option (Traffic × List Output) :=
  if (t.leading? c).all fun p => p.2.awaits fun _ => true then
    (t.gate.drop? c).map fun gate => (t.withGate gate, [])
  else none

/-- The traffic after an event, with what can be seen of it, if the event is possible. -/
def step? (t : Traffic) : Event → Option (Traffic × List Output)
  | .look key => some (t.look key)
  | .join c => (t.gate.join? c).map fun gate => (t.withGate gate, [])
  | .lookAgain c owner => t.lookAgain? c owner
  | .hold c => t.hold? c
  | .receive c answer => t.receive? c answer
  | .expire c => t.expire? c
  | .publish c => (t.gate.publish? c).map fun gate => (t.withGate gate, [])
  | .retire c => (t.gate.retire? c).map fun gate => (t.withGate gate, (t.withGate gate).answer? c)
  | .wake c => (t.gate.wake? c).map fun gate => (t.withGate gate, (t.withGate gate).answer? c)
  | .drop c => t.drop? c
  | .tick ms => some ({ t with now := t.now + ms }, [])
  | .registerPeers => t.group.registerPeers.toOption.map fun group => ({ t with group }, [])
  | .countRequest => some ({ t with group := t.group.record .serverRequests }, [])

/-! ## Running until nothing moves -/

/-- What caller `c` does next by itself. A source is asked once before the limit is looked at. -/
def next? (w : Surroundings) (t : Traffic) (c : Nat) : Option Event :=
  t.gate.callers[c]?.bind fun caller =>
    match caller.phase with
    | .arriving => some (.join c)
    | .waiting _ => some (.wake c)
    | .leading _ .fresh => some (.lookAgain c (w.owner? caller.key))
    | .leading _ (.asking side _) =>
      match w.ask side caller.key with
      | .now outcome => some (.receive c outcome)
      | _ => some (.hold c)
    | .leading _ (.awaiting _ _) => some (.expire c)
    | .settled _ _ => some (.publish c)
    | .published _ _ => some (.retire c)
    | .finished _ | .dropped => none

/-- The traffic after the next step of the first caller that can move. -/
def advance? (w : Surroundings) (t : Traffic) : Option (Traffic × List Output) :=
  (List.range t.gate.callers.size).findSome? fun c => (t.next? w c).bind t.step?

/-- The traffic after `n` steps, or when nobody can move, with everything that can be seen. -/
def runSteps (w : Surroundings) : Nat → Traffic → Traffic × List Output
  | 0, t => (t, [])
  | n + 1, t =>
    match t.advance? w with
    | some (t, out) =>
      let (t, rest) := runSteps w n t
      (t, out ++ rest)
    | none => (t, [])

/-- The traffic when nobody can move. A caller moves at most nine times: it wakes, joins, looks
again, asks a peer and the loader and may be held by both, expires, publishes and retires; what
holds it makes it move no more but for the last three. -/
def quiesce (w : Surroundings) (t : Traffic) : Traffic × List Output :=
  runSteps w (9 * t.gate.callers.size) t

/-- The first caller a source keeps waiting for a key, one of the sources asked for. -/
def blocked? (t : Traffic) (key : String) (asked : Side → Bool) : Option Nat :=
  t.gate.leader? key fun load => load.awaits asked

/-- The traffic after an event and everything that follows from it, if the event is possible. -/
def play (w : Surroundings) (t : Traffic) (e : Event) : Option (Traffic × List Output) :=
  (t.step? e).map fun (t, out) =>
    let (t, rest) := t.quiesce w
    (t, out ++ rest)

end Traffic

end ReadThrough
