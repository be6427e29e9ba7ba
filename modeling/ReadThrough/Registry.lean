import ReadThrough.Group.Lookup
import ReadThrough.Text.Order

/-!
# Registries

A registry holds the groups of a node by name. A name is given once, and groups stay. Lookups are
made one at a time; the registry remembers which sources they asked.

## Main definitions

* `Member`: a group with its surroundings
* `Registry`: groups by name
* `Registry.register`: one group more
* `Registry.get`: a lookup in a group
-/

namespace ReadThrough

/-- A group with its surroundings. -/
structure Member where
  /-- The group. -/
  group : Group
  /-- The owners of its keys and the answers of its sources. -/
  around : Surroundings

/-- One call to a source. -/
structure SourceCall where
  /-- The name of the group that called. -/
  group : String
  /-- The source called. -/
  side : Side
  /-- The key asked for. -/
  key : String
  deriving DecidableEq, Repr

/-- Groups by name. -/
structure Registry where
  /-- The groups, in order of registration. -/
  members : List Member
  /-- The calls to sources so far, in order. -/
  calls : List SourceCall

namespace Registry

/-- No groups. -/
def empty : Registry := ⟨[], []⟩

/-- The group with a name. -/
def find? (r : Registry) (name : String) : Option Member :=
  r.members.find? (·.group.name == name)

/-- The names of the groups, ascending. -/
def names (r : Registry) : List String := Text.sortedDistinct (r.members.map (·.group.name))

/-- The registry with one group more. -/
def register (r : Registry) (m : Member) : Except Fault Registry :=
  if (r.find? m.group.name).isSome then
    .error (.config ("duplicate group name: " ++ m.group.name))
  else .ok { r with members := r.members ++ [m] }

/-- The registry with another state of the group of that name. -/
def setGroup (r : Registry) (g : Group) : Registry :=
  { r with
    members := r.members.map fun m => if m.group.name = g.name then { m with group := g } else m }

/-- The registry with one peer request more counted for a group. -/
def countRequest (r : Registry) (name : String) : Registry :=
  match r.find? name with
  | some m => r.setGroup (m.group.record .serverRequests)
  | none => r

/-- A lookup in the group with a name, if there is one: the registry, and the answer unless the
lookup is stuck. -/
def get (r : Registry) (name key : String) : Registry × Option Outcome :=
  match r.find? name with
  | some m =>
    -- A registry is asked by one caller at a time, so nothing else changes the group meanwhile.
    let (g, outcome, sides) := m.group.get m.around key
    let r := r.setGroup g
    ({ r with calls := r.calls ++ sides.map fun side => ⟨name, side, key⟩ }, outcome)
  | none => (r, none)

end Registry

end ReadThrough
