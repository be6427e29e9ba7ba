import ReadThrough.Group.Basic

/-!
# Sources

What surrounds a group: who owns a key, and what the sources answer, at once, after a while or
never.

## Main definitions

* `Reply`: an answer and when it comes
* `Surroundings`: the owners of keys and the answers of sources
-/

namespace ReadThrough

/-- The answer of a source, and when it comes. -/
inductive Reply where
  /-- At once. -/
  | now (outcome : Outcome)
  /-- After some milliseconds. -/
  | later (ms : Nat) (outcome : Outcome)
  /-- Never, unless something else ends the wait. -/
  | never
  deriving DecidableEq, Repr

/-- A loader's answer for every key. -/
abbrev Loader := String → Reply

/-- The owners of keys and the answers of sources. -/
structure Surroundings where
  /-- The peer that owns a key, if any. -/
  owner? : String → Option String
  /-- What a source answers when asked for a key. -/
  ask : Side → String → Reply

/-- No peers, and a loader. -/
def Surroundings.ofLoader (loader : Loader) : Surroundings :=
  ⟨fun _ => none, fun side key => match side with
    | .loader => loader key
    | .peer _ => .never⟩

end ReadThrough
