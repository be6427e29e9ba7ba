/-!
# The single-flight gate

Callers bring work for a key to a gate. The first caller for a key leads a flight: it runs its own
work while the gate keeps a record of the flight, and callers that come in the meantime wait for
its outcome. When the work is over the leader publishes the outcome, and only then retires the
record. A leader that is dropped closes its flight without an outcome, and the callers who waited
start over.

Every step below is one that nothing comes between; the steps of different callers interleave in
any order.

## Main definitions

* `Gate`: records, flights and callers
* `Event`, `Gate.step?`: the steps, each of which is possible in some states only
* `Gate.quiesce`: a run in which the caller that came first always moves first
-/

namespace ReadThrough

/-- What the members of a flight can learn of it. -/
inductive Signal (α : Type) where
  /-- The leader is still at work. -/
  | pending
  /-- The leader published its outcome. -/
  | sent (outcome : α)
  /-- The leader was dropped. -/
  | closed
  deriving DecidableEq, Repr

/-- One execution of work, for everyone with the same key. -/
structure Flight (α : Type) where
  /-- The key. -/
  key : String
  /-- What its members can learn. -/
  signal : Signal α
  deriving DecidableEq, Repr

/-- Where a caller stands; a flight is named by its number. -/
inductive Phase (α ω : Type) where
  /-- About to look for a flight to join. -/
  | arriving
  /-- Waits for the outcome of a flight. -/
  | waiting (flight : Nat)
  /-- Leads a flight and is at work. -/
  | leading (flight : Nat) (work : ω)
  /-- Leads a flight, and the work is over. -/
  | settled (flight : Nat) (outcome : α)
  /-- Leads a flight whose outcome everyone can learn. -/
  | published (flight : Nat) (outcome : α)
  /-- Has its answer. -/
  | finished (outcome : α)
  /-- Was dropped before it had an answer. -/
  | dropped
  deriving DecidableEq, Repr

namespace Phase

variable {α ω : Type}

/-- Neither answered nor dropped. -/
def isLive : Phase α ω → Bool
  | .finished _ | .dropped => false
  | _ => true

/-- The answer, if there is one. -/
def outcome? : Phase α ω → Option α
  | .finished outcome => some outcome
  | _ => none

end Phase

/-- Someone who wants the outcome of work for a key. -/
structure Caller (α ω : Type) where
  /-- The key. -/
  key : String
  /-- The work the caller runs if it leads. -/
  work : ω
  /-- Where the caller stands. -/
  phase : Phase α ω
  deriving DecidableEq, Repr

/-- Flights and callers, with a record of the flight to join for a key. -/
structure Gate (α ω : Type) where
  /-- The flight to join for each key that has one. -/
  records : List (String × Nat)
  /-- Every flight so far, by its number. -/
  flights : Array (Flight α)
  /-- Every caller so far, in order of arrival. -/
  callers : Array (Caller α ω)
  deriving Repr

namespace Gate

variable {α ω : Type}

/-- A gate nobody has come to. -/
def empty : Gate α ω := ⟨[], #[], #[]⟩

/-- Number of keys with a flight to join. -/
def inFlight (g : Gate α ω) : Nat := g.records.length

/-- The gate with caller `c` in another phase. -/
def setPhase (g : Gate α ω) (c : Nat) (phase : Phase α ω) : Gate α ω :=
  { g with callers := g.callers.modify c ({ · with phase }) }

/-- The gate with another signal from a flight. -/
def setSignal (g : Gate α ω) (flight : Nat) (signal : Signal α) : Gate α ω :=
  { g with flights := g.flights.modify flight ({ · with signal }) }

/-- The signal from a flight, if there is such a flight. -/
def signal? (g : Gate α ω) (flight : Nat) : Option (Signal α) := g.flights[flight]?.map (·.signal)

/-- The gate without the record of a flight; a record of another flight for the key stays. -/
def forget (g : Gate α ω) (key : String) (flight : Nat) : Gate α ω :=
  { g with records := g.records.filter (· ≠ (key, flight)) }

/-! ## Steps -/

/-- A caller comes to the gate. -/
def arrive (g : Gate α ω) (key : String) (work : ω) : Gate α ω :=
  { g with callers := g.callers.push ⟨key, work, .arriving⟩ }

/-- Caller `c` joins the flight for its key, or leads a new one. -/
def join? (g : Gate α ω) (c : Nat) : Option (Gate α ω) :=
  match g.callers[c]? with
  | some ⟨key, work, .arriving⟩ =>
    match g.records.lookup key with
    -- A flight whose outcome is out but whose record still stands can be joined too.
    | some flight => some (g.setPhase c (.waiting flight))
    | none =>
      let flight := g.flights.size
      some ({ g with
          records := (key, flight) :: g.records
          flights := g.flights.push ⟨key, .pending⟩ }.setPhase c (.leading flight work))
  | _ => none

/-- The work of caller `c` moves on. -/
def proceed? (g : Gate α ω) (c : Nat) (work : ω) : Option (Gate α ω) :=
  match g.callers[c]? with
  | some ⟨_, _, .leading flight _⟩ => some (g.setPhase c (.leading flight work))
  | _ => none

/-- The work of caller `c` is over. -/
def settle? (g : Gate α ω) (c : Nat) (outcome : α) : Option (Gate α ω) :=
  match g.callers[c]? with
  | some ⟨_, _, .leading flight _⟩ => some (g.setPhase c (.settled flight outcome))
  | _ => none

/-- Caller `c` lets its flight's members have the outcome. -/
def publish? (g : Gate α ω) (c : Nat) : Option (Gate α ω) :=
  match g.callers[c]? with
  | some ⟨_, _, .settled flight outcome⟩ =>
    some ((g.setSignal flight (.sent outcome)).setPhase c (.published flight outcome))
  | _ => none

/-- Caller `c` removes its flight's record and has its own answer. -/
def retire? (g : Gate α ω) (c : Nat) : Option (Gate α ω) :=
  match g.callers[c]? with
  | some ⟨key, _, .published flight outcome⟩ =>
    some ((g.forget key flight).setPhase c (.finished outcome))
  | _ => none

/-- Caller `c` learns the outcome it waits for, or starts over because there will be none. -/
def wake? (g : Gate α ω) (c : Nat) : Option (Gate α ω) :=
  match g.callers[c]? with
  | some ⟨_, _, .waiting flight⟩ =>
    match g.signal? flight with
    | some (.sent outcome) => some (g.setPhase c (.finished outcome))
    -- Whoever arrives first of those who waited will lead.
    | some .closed => some (g.setPhase c .arriving)
    | _ => none
  | _ => none

/-- Caller `c` is dropped while it waits or is at work. The flight it leads loses its record and is
closed. -/
def drop? (g : Gate α ω) (c : Nat) : Option (Gate α ω) :=
  match g.callers[c]? with
  | some ⟨_, _, .waiting _⟩ => some (g.setPhase c .dropped)
  | some ⟨key, _, .leading flight _⟩ =>
    some (((g.forget key flight).setSignal flight .closed).setPhase c .dropped)
  | _ => none

/-- The steps of a gate. -/
inductive Event (α ω : Type) where
  /-- A caller comes. -/
  | arrive (key : String) (work : ω)
  /-- A caller joins a flight or leads one. -/
  | join (c : Nat)
  /-- A leader's work moves on. -/
  | proceed (c : Nat) (work : ω)
  /-- A leader's work is over. -/
  | settle (c : Nat) (outcome : α)
  /-- A leader publishes its outcome. -/
  | publish (c : Nat)
  /-- A leader retires its flight's record. -/
  | retire (c : Nat)
  /-- A waiting caller hears from its flight. -/
  | wake (c : Nat)
  /-- A caller is dropped. -/
  | drop (c : Nat)
  deriving DecidableEq, Repr

/-- The gate after an event, if the event is possible. -/
def step? (g : Gate α ω) : Event α ω → Option (Gate α ω)
  | .arrive key work => some (g.arrive key work)
  | .join c => g.join? c
  | .proceed c work => g.proceed? c work
  | .settle c outcome => g.settle? c outcome
  | .publish c => g.publish? c
  | .retire c => g.retire? c
  | .wake c => g.wake? c
  | .drop c => g.drop? c

/-! ## Asking after callers -/

/-- Number of callers neither answered nor dropped. -/
def pending (g : Gate α ω) : Nat := (g.callers.toList.filter (·.phase.isLive)).length

/-- The first caller at work for a key, if its work is as asked for. -/
def leader? (g : Gate α ω) (key : String) (asked : ω → Bool) : Option Nat :=
  (List.range g.callers.size).find? fun c =>
    match g.callers[c]? with
    | some ⟨k, _, .leading _ work⟩ => k == key && asked work
    | _ => false

/-- The last caller to come that waits for a key. -/
def lastWaiter? (g : Gate α ω) (key : String) : Option Nat :=
  (List.range g.callers.size).reverse.find? fun c =>
    match g.callers[c]? with
    | some ⟨k, _, .waiting _⟩ => k == key
    | _ => false

/-- The keys of the executions begun since the gate looked like `before`. -/
def begunSince (g before : Gate α ω) : List String :=
  (g.flights.toList.drop before.flights.size).map (·.key)

/-- The callers answered since the gate looked like `before`, with their answers. -/
def answeredSince (g before : Gate α ω) : List (String × α) :=
  (List.range g.callers.size).filterMap fun c =>
    if (before.callers[c]?.bind (·.phase.outcome?)).isSome then none
    else g.callers[c]?.bind fun caller => caller.phase.outcome?.map fun o => (caller.key, o)

/-! ## Running until nothing moves -/

/-- What caller `c` does next by itself. Its work is over as soon as `ready` says so. -/
def next? (ready : ω → Option α) (g : Gate α ω) (c : Nat) : Option (Event α ω) :=
  g.callers[c]?.bind fun caller =>
    match caller.phase with
    | .arriving => some (.join c)
    | .waiting _ => some (.wake c)
    | .leading _ work => (ready work).map (.settle c)
    | .settled _ _ => some (.publish c)
    | .published _ _ => some (.retire c)
    | .finished _ | .dropped => none

/-- The gate after the next step of the first caller that can move. -/
def advance? (ready : ω → Option α) (g : Gate α ω) : Option (Gate α ω) :=
  (List.range g.callers.size).findSome? fun c => (g.next? ready c).bind g.step?

/-- The gate after `n` steps, or when nobody can move. -/
def runSteps (ready : ω → Option α) : Nat → Gate α ω → Gate α ω
  | 0, g => g
  | n + 1, g =>
    match g.advance? ready with
    | some g => runSteps ready n g
    | none => g

/-- The gate when nobody can move. A caller moves at most five times: it wakes, joins, settles,
publishes and retires. -/
def quiesce (ready : ω → Option α) (g : Gate α ω) : Gate α ω :=
  runSteps ready (5 * g.callers.size) g

end Gate

end ReadThrough
