import Mathlib.Data.List.Nodup
import ReadThrough.Proofs.Flight.Sound

/-!
# What happened at a gate

The executions that a run of the gate began, completed and gave up, and the flight that each caller
is on by its last look at the records. All of it is read off the moments of the run.

## Main definitions

* `Moment.joins m c`: caller `c` looks for a flight, and so goes round once
* `Moment.begun?`, `Moment.boarded?`: what comes of it, a flight of its own or another's
* `Moment.settled?`, `Moment.abandoned?`: the end of an execution, and a leader dropped at work
* `Gate.flightOf? ms c`: the flight caller `c` is on by its last look
-/

namespace ReadThrough

/-! ## Lists that grow at the end -/

section Snoc

variable {β γ : Type} {l : List β} {x : β}

theorem filterMap_snoc (f : β → Option γ) :
    (l ++ [x]).filterMap f = l.filterMap f ++ (f x).toList := by
  rw [List.filterMap_append, List.filterMap_cons, List.filterMap_nil]
  cases f x <;> rfl

/-- What is new at the end keeps a list free of duplicates. -/
theorem nodup_map_snoc {f : β → γ} {o : Option β} (hn : (l.map f).Nodup)
    (hfresh : ∀ x, o = some x → f x ∉ l.map f) : ((l ++ o.toList).map f).Nodup := by
  cases o with
  | none => simpa using hn
  | some x =>
    rw [Option.toList_some, List.map_append, List.nodup_append']
    exact ⟨hn, by simp, by simpa using hfresh x rfl⟩

end Snoc

/-! ## What one moment tells -/

variable {α ω : Type}

namespace Moment

/-- Caller `c` looks for a flight to join. -/
def joins (m : Moment (Gate α ω) (Gate.Event α ω)) (c : Nat) : Bool :=
  match m.event with
  | .join d => d == c
  | _ => false

/-- The caller that begins its own work, and the flight it leads. -/
def begun? (m : Moment (Gate α ω) (Gate.Event α ω)) : Option (Nat × Nat) :=
  match m.event with
  | .join c =>
    match m.after.standing? c with
    | some (_, .leading f _) => some (c, f)
    | _ => none
  | _ => none

/-- The caller that joins the flight of another, and that flight. -/
def boarded? (m : Moment (Gate α ω) (Gate.Event α ω)) : Option (Nat × Nat) :=
  match m.event with
  | .join c =>
    match m.after.standing? c with
    | some (_, .waiting f) => some (c, f)
    | _ => none
  | _ => none

/-- The flight whose work is over, and its outcome. -/
def settled? (m : Moment (Gate α ω) (Gate.Event α ω)) : Option (Nat × α) :=
  match m.event with
  | .settle c outcome =>
    match m.before.standing? c with
    | some (_, .leading f _) => some (f, outcome)
    | _ => none
  | _ => none

/-- The flight whose leader is dropped at work, and its key. -/
def abandoned? (m : Moment (Gate α ω) (Gate.Event α ω)) : Option (String × Nat) :=
  match m.event with
  | .drop c =>
    match m.before.standing? c with
    | some (key, .leading f _) => some (key, f)
    | _ => none
  | _ => none

/-- Caller `c` is neither answered nor dropped. -/
def pends (m : Moment (Gate α ω) (Gate.Event α ω)) (c : Nat) : Bool :=
  (m.before.standing? c).any fun x => x.2.isLive

end Moment

namespace Moment

variable {m : Moment (Gate α ω) (Gate.Event α ω)} {c f : Nat} {key : String} {outcome : α}

theorem joins_iff : m.joins c = true ↔ m.event = .join c := by
  unfold joins
  split <;> simp_all

theorem begun?_eq_some_iff : m.begun? = some (c, f) ↔
    m.event = .join c ∧ ∃ key work, m.after.standing? c = some (key, .leading f work) := by
  unfold begun?
  split
  · split <;> simp_all <;> grind
  · simp_all

theorem boarded?_eq_some_iff : m.boarded? = some (c, f) ↔
    m.event = .join c ∧ ∃ key, m.after.standing? c = some (key, .waiting f) := by
  unfold boarded?
  split
  · split <;> simp_all <;> grind
  · simp_all

theorem settled?_eq_some_iff : m.settled? = some (f, outcome) ↔ ∃ c key work,
    m.event = .settle c outcome ∧ m.before.standing? c = some (key, .leading f work) := by
  unfold settled?
  split
  · split <;> simp_all
    grind
  · simp_all

theorem abandoned?_eq_some_iff : m.abandoned? = some (key, f) ↔ ∃ c work,
    m.event = .drop c ∧ m.before.standing? c = some (key, .leading f work) := by
  unfold abandoned?
  split
  · split <;> simp_all
  · simp_all

end Moment

/-! ## What a run tells -/

namespace Gate

variable {ms : List (Moment (Gate α ω) (Event α ω))} {m : Moment (Gate α ω) (Event α ω)} {c f : Nat}

/-- The callers that began their own work, with the flights they led. -/
def begun (ms : List (Moment (Gate α ω) (Event α ω))) : List (Nat × Nat) :=
  ms.filterMap (·.begun?)

/-- The callers that joined the flight of another, with those flights. -/
def boarded (ms : List (Moment (Gate α ω) (Event α ω))) : List (Nat × Nat) :=
  ms.filterMap (·.boarded?)

/-- The flights whose work is over, with their outcomes. -/
def settled (ms : List (Moment (Gate α ω) (Event α ω))) : List (Nat × α) :=
  ms.filterMap (·.settled?)

/-- The flights whose leader was dropped at work, with their keys. -/
def abandoned (ms : List (Moment (Gate α ω) (Event α ω))) : List (String × Nat) :=
  ms.filterMap (·.abandoned?)

/-- The flight caller `c` led or waited for when it last looked for one. -/
def flightOf? (ms : List (Moment (Gate α ω) (Event α ω))) (c : Nat) : Option Nat :=
  (ms.reverse.find? (·.joins c)).bind fun m => (m.after.standing? c).bind fun x => x.2.flight?

theorem begun_snoc : begun (ms ++ [m]) = begun ms ++ m.begun?.toList :=
  filterMap_snoc _

theorem boarded_snoc : boarded (ms ++ [m]) = boarded ms ++ m.boarded?.toList :=
  filterMap_snoc _

theorem settled_snoc : settled (ms ++ [m]) = settled ms ++ m.settled?.toList :=
  filterMap_snoc _

theorem abandoned_snoc : abandoned (ms ++ [m]) = abandoned ms ++ m.abandoned?.toList :=
  filterMap_snoc _

theorem flightOf?_snoc_of_joins (h : m.event = .join c) :
    flightOf? (ms ++ [m]) c = (m.after.standing? c).bind fun x => x.2.flight? := by
  simp [flightOf?, Moment.joins_iff.mpr h]

theorem flightOf?_snoc_of_ne (h : m.event ≠ .join c) :
    flightOf? (ms ++ [m]) c = flightOf? ms c := by
  have hj : m.joins c = false := by
    rw [← Bool.not_eq_true, Moment.joins_iff]
    exact h
  simp [flightOf?, hj]

end Gate

end ReadThrough
