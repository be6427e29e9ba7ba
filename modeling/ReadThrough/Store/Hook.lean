import ReadThrough.Store.Basic

/-!
# Eviction hooks

A store may report every evicted entry to a hook. The report comes when the insertion that evicted
the entry is over, so the hook may itself look up and insert; what that evicts is reported before
the hook goes on, and before the rest of the first insertion's entries.

## Main definitions

* `Reaction`, `Hook`: what a hook does about one evicted entry
* `Session`: a store with the reports and reactions still due
* `Session.step`, `Session.run`: one due task, and all of them
* `Store.addReporting`: an insertion with everything that follows from it
-/

namespace ReadThrough

/-- The operations with which a hook reacts to an evicted entry, one after the other. -/
inductive Reaction where
  /-- Nothing more to do. -/
  | done
  /-- Look a key up and go on with what is found. -/
  | get (key : String) (next : Option Value → Reaction)
  /-- Store a value and go on. -/
  | add (key : String) (value : Value) (next : Reaction)

/-- A hook reacts to an evicted entry; it knows how many were reported to it before. -/
abbrev Hook := Nat → Entry → Reaction

namespace Hook

/-- Takes note of the entry only. -/
def quiet : Hook := fun _ _ => .done

/-- Looks the evicted key up. -/
def lookUp : Hook := fun _ e => .get e.key fun _ => .done

/-- Puts the first half of the value back, unless there was nothing left of it. -/
def halve : Hook := fun _ e =>
  if e.value.isEmpty then .done
  else .add e.key ⟨e.value.bytes.take (e.value.size / 2)⟩ .done

end Hook

/-! ## Sessions -/

/-- What is still due: a report, or the rest of a reaction. -/
inductive Task where
  /-- Report an evicted entry. -/
  | report (e : Entry)
  /-- Go on reacting. -/
  | react (r : Reaction)

/-- A store with what is still due, next task first. -/
structure Session where
  /-- The store. -/
  store : Store
  /-- The tasks due. -/
  agenda : List Task
  /-- The entries reported so far, the last one in front. -/
  reported : List Entry

namespace Session

/-- Does the next task. -/
def step (hook : Hook) (s : Session) : Session :=
  match s.agenda with
  | [] => s
  | .report e :: rest =>
    { s with
      agenda := .react (hook s.reported.length e) :: rest
      reported := e :: s.reported }
  | .react .done :: rest => { s with agenda := rest }
  | .react (.get key next) :: rest =>
    let (store, value) := s.store.get key
    { s with store, agenda := .react (next value) :: rest }
  | .react (.add key value next) :: rest =>
    let (store, evicted) := s.store.add key value
    -- What this evicts is reported before the reaction goes on.
    { s with store, agenda := evicted.map .report ++ .react next :: rest }

/-- Does the tasks due, at most `n` of them. -/
def run (hook : Hook) : Nat → Session → Session
  | 0, s => s
  | n + 1, s => if s.agenda.isEmpty then s else run hook n (s.step hook)

end Session

namespace Store

/-- A number of tasks that is enough after an insertion of `size` bytes if every reaction makes
one lookup at most, or one insertion of a value shorter than the evicted one: each entry then costs
three tasks, and each byte of a value three more. -/
def effort (s : Store) (size : Nat) : Nat := 3 * (s.lru.used + s.lru.size + size + 1)

/-- Stores a value, reports what this evicts and does what the hook asks for. -/
def addReporting (hook : Hook) (s : Store) (key : String) (value : Value) : Session :=
  let (store, evicted) := s.add key value
  Session.run hook (s.effort value.size) ⟨store, evicted.map .report, []⟩

end Store

end ReadThrough
