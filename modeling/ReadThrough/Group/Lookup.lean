import ReadThrough.Group.Source

/-!
# One lookup at a time

A lookup with nobody else in the group: the two looks into the store follow each other, and the
sources are asked one after the other until one answers or the limit is over. Between two stages
the group is at rest, so what answers for the sources may itself look things up elsewhere.

## Main definitions

* `Stage`: how far a lookup is
* `Group.begin`, `Group.lead`, `Group.resume`: the stages of a lookup
* `Group.get`: the whole lookup in given surroundings
-/

namespace ReadThrough

/-- How far a lookup is. -/
inductive Stage where
  /-- It has its answer. -/
  | answered (outcome : Outcome)
  /-- A source is being asked, so many milliseconds after the first one was. -/
  | asks (side : Side) (elapsed : Nat)
  /-- It waits for an answer that will not come. -/
  | stuck
  deriving DecidableEq, Repr

namespace Group

/-- The load of a key up to its outcome or the first source asked. -/
def lead (g : Group) (owner : Option String) (key : String) : Group × Stage :=
  match g.lookAgain key with
  | (g, some value) => (g, .answered (.ok value))
  | (g, none) => (g, .asks (g.firstSide owner) 0)

/-- The lookup of a key up to its answer or the first source asked. -/
def begin (g : Group) (owner : Option String) (key : String) : Group × Stage :=
  match g.look key with
  | (g, some outcome) => (g, .answered outcome)
  | (g, none) => g.lead owner key

/-- The lookup after a source's answer, up to its answer or the next source asked. -/
def deliver (g : Group) (key : String) (side : Side) (elapsed : Nat) (answer : Outcome) :
    Group × Stage :=
  match g.receive key side answer with
  | (g, some outcome) => (g, .answered outcome)
  | (g, none) => (g, .asks .loader elapsed)

/-- The lookup after a source's reply. An answer that comes when the limit is over counts only if
it comes in the same moment. -/
def resume (g : Group) (key : String) (side : Side) (elapsed : Nat) : Reply → Group × Stage
  | .now answer => g.deliver key side elapsed answer
  | .later ms answer =>
    match g.limit with
    | some limit =>
      if limit < elapsed + ms then (g, .answered (overdue key limit))
      else g.deliver key side (elapsed + ms) answer
    | none => g.deliver key side (elapsed + ms) answer
  | .never =>
    match g.limit with
    | some limit => (g, .answered (overdue key limit))
    | none => (g, .stuck)

/-- The rest of a lookup, in which up to `n` sources are asked: the group, the answer unless the
lookup is stuck, and the sources asked. -/
def finish (w : Surroundings) (key : String) : Nat → Group → Stage →
    Group × Option Outcome × List Side
  | _, g, .answered outcome => (g, some outcome, [])
  | _, g, .stuck => (g, none, [])
  | 0, g, .asks _ _ => (g, none, [])
  | n + 1, g, .asks side elapsed =>
    let (g, stage) := g.resume key side elapsed (w.ask side key)
    let (g, outcome, sides) := finish w key n g stage
    (g, outcome, side :: sides)

/-- A whole lookup; it asks two sources at most, a peer and the loader. -/
def get (w : Surroundings) (g : Group) (key : String) : Group × Option Outcome × List Side :=
  let (g, stage) := g.begin (w.owner? key) key
  g.finish w key 2 stage

end Group

end ReadThrough
