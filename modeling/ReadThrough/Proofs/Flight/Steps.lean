import ReadThrough.Flight.Gate
import ReadThrough.Proofs.Run

/-!
# What a step of the gate does

Each event of the gate does one of a few things, and only to a caller who stands where the event
can happen. `Gate.Step` lists them once; every invariant of the gate is a case analysis over that
list.

## Main definitions

* `Gate.standing? g c`: the key of caller `c` and where it stands
* `Phase.led?`, `Phase.signal?`: the flight a caller leads, and what its members can learn
* `Gate.Step g e g'`: all that an event can do
* `Gate.Turn g c key e p q`: what an event does to the caller it is about

## Main results

* `Gate.step_of_step?`, `Gate.step?_of_step`: a possible event does one of these things, and each of
  them is what an event does
* `Gate.Step.standing`, `Gate.Step.standing_after`: a step seen from a caller, back and forth
* `Gate.Step.flight`, `Gate.Step.flight_after`: a step seen from a flight, back and forth
-/

namespace ReadThrough

namespace Phase

variable {α ω : Type}

/-- The flight a caller leads, until it retires the flight's record. -/
def led? : Phase α ω → Option Nat
  | .leading flight _ | .settled flight _ | .published flight _ => some flight
  | _ => none

/-- What the members of the flight a caller leads can learn of it. -/
def signal? : Phase α ω → Option (Signal α)
  | .leading _ _ | .settled _ _ => some .pending
  | .published _ outcome => some (.sent outcome)
  | _ => none

/-- The flight a caller is on, as its leader or waiting for it. -/
def flight? : Phase α ω → Option Nat
  | .waiting flight => some flight
  | phase => phase.led?

end Phase

namespace Gate

variable {α ω : Type}

/-! ## Where callers stand -/

section Standing

variable {g : Gate α ω} {c d f : Nat} {key : String} {p phase : Phase α ω}

/-- The key of caller `c` and where it stands. -/
def standing? (g : Gate α ω) (c : Nat) : Option (String × Phase α ω) :=
  g.callers[c]?.map fun caller => (caller.key, caller.phase)

@[grind →] theorem standing?_of_callers {work : ω} (h : g.callers[c]? = some ⟨key, work, phase⟩) :
    g.standing? c = some (key, phase) := by
  simp [standing?, h]

theorem exists_callers_of_standing? (h : g.standing? c = some (key, phase)) :
    ∃ work, g.callers[c]? = some ⟨key, work, phase⟩ := by
  obtain ⟨⟨k, work, p⟩, hc, he⟩ := Option.map_eq_some_iff.mp h
  obtain ⟨rfl, rfl⟩ := Prod.mk.inj he
  exact ⟨work, hc⟩

theorem lt_size_of_standing? {x : String × Phase α ω} (h : g.standing? c = some x) :
    c < g.callers.size := by
  obtain ⟨caller, hc, -⟩ := Option.map_eq_some_iff.mp h
  exact Array.getElem?_eq_some_iff.mp hc |>.1

/-- A caller stands in one place. -/
theorem standing?_inj {k : String} (h : g.standing? c = some (key, p))
    (h' : g.standing? c = some (k, phase)) : key = k ∧ p = phase :=
  Prod.mk.inj (Option.some.inj (h.symm.trans h'))

@[grind =] theorem standing?_size : g.standing? g.callers.size = none := by simp [standing?]

@[simp, grind =] theorem standing?_empty : (empty : Gate α ω).standing? c = none := by
  simp [standing?, empty]

@[simp, grind =] theorem standing?_setPhase :
    (g.setPhase c phase).standing? d =
      if c = d then (g.standing? d).map fun x => (x.1, phase) else g.standing? d := by
  simp only [standing?, setPhase, Array.getElem?_modify]
  split <;> simp [Function.comp_def]

theorem standing?_setPhase_of (h : g.standing? c = some (key, p)) :
    (g.setPhase c phase).standing? d = if c = d then some (key, phase) else g.standing? d := by
  rw [standing?_setPhase]
  split
  · rename_i hd
    subst hd
    rw [h, Option.map_some]
  · rfl

/-- Whoever stands somewhere after a caller took on another phase is that caller, or stood there
before. -/
theorem standing_of_setPhase {k : String} {q : Phase α ω} (hc : g.standing? c = some (k, p))
    (h : (g.setPhase c phase).standing? d = some (key, q)) :
    c ≠ d ∧ g.standing? d = some (key, q) ∨ c = d ∧ k = key ∧ phase = q := by
  rw [standing?_setPhase_of hc] at h
  split at h
  · rename_i hd
    obtain ⟨rfl, rfl⟩ := Prod.mk.inj (Option.some.inj h)
    exact .inr ⟨hd, rfl, rfl⟩
  · rename_i hd
    exact .inl ⟨hd, h⟩

@[simp, grind =] theorem standing?_setSignal {signal : Signal α} :
    (g.setSignal f signal).standing? c = g.standing? c := rfl

@[simp, grind =] theorem standing?_forget : (g.forget key f).standing? c = g.standing? c := rfl

@[simp, grind =] theorem standing?_arrive {work : ω} :
    (g.arrive key work).standing? c =
      if c = g.callers.size then some (key, .arriving) else g.standing? c := by
  simp only [standing?, arrive, Array.getElem?_push]
  split <;> simp

@[simp] theorem flights_setPhase : (g.setPhase c phase).flights = g.flights := rfl

@[simp] theorem records_setPhase : (g.setPhase c phase).records = g.records := rfl

@[simp] theorem records_setSignal {signal : Signal α} :
    (g.setSignal f signal).records = g.records := rfl

@[simp] theorem flights_forget : (g.forget key f).flights = g.flights := rfl

theorem getElem?_flights_setSignal {signal : Signal α} :
    (g.setSignal f signal).flights[d]? =
      if f = d then g.flights[d]?.map ({ · with signal }) else g.flights[d]? := by
  simp only [setSignal, Array.getElem?_modify]

theorem setSignal_eq_self {signal : Signal α} (h : g.flights[f]? = some ⟨key, signal⟩) :
    g.setSignal f signal = g := by
  -- The flight in question is the only one that could change.
  have he : g.flights.modify f ({ · with signal }) = g.flights := by
    refine Array.ext_getElem? fun i => ?_
    rw [Array.getElem?_modify]
    split
    · rename_i hi
      subst hi
      simp [h]
    · rfl
  simp only [setSignal, he]

theorem mem_records_forget {r : String × Nat} :
    r ∈ (g.forget key f).records ↔ r ∈ g.records ∧ r ≠ (key, f) := by
  simp [forget]

/-- The gate with a new flight for `key`, which has a record and no leader yet. -/
def takeOff (g : Gate α ω) (key : String) : Gate α ω :=
  { g with
    records := (key, g.flights.size) :: g.records
    flights := g.flights.push ⟨key, .pending⟩ }

@[simp, grind =] theorem standing?_takeOff : (g.takeOff key).standing? c = g.standing? c := rfl

@[grind →] theorem signal?_of_flights {signal : Signal α}
    (h : g.flights[f]? = some ⟨key, signal⟩) : g.signal? f = some signal := by
  simp [signal?, h]

/-- A flight is for one key. -/
theorem flights_inj {k : String} {signal signal' : Signal α}
    (h : g.flights[f]? = some ⟨key, signal⟩) (h' : g.flights[f]? = some ⟨k, signal'⟩) :
    key = k ∧ signal = signal' :=
  Flight.mk.inj (Option.some.inj (h.symm.trans h'))

end Standing

/-! ## The steps -/

/-- All that an event can do. -/
inductive Step (g : Gate α ω) : Event α ω → Gate α ω → Prop where
  /-- A caller comes. -/
  | arrive (key : String) (work : ω) : Step g (.arrive key work) (g.arrive key work)
  /-- A caller joins the flight its key has a record of. -/
  | board {c f : Nat} {key : String} (hc : g.standing? c = some (key, .arriving))
      (hr : g.records.lookup key = some f) : Step g (.join c) (g.setPhase c (.waiting f))
  /-- A caller whose key has no record leads a flight of its own, to do its own work. -/
  | lead {c : Nat} {key : String} {work : ω} (hc : g.callers[c]? = some ⟨key, work, .arriving⟩)
      (hr : g.records.lookup key = none) :
      Step g (.join c) ((g.takeOff key).setPhase c (.leading g.flights.size work))
  /-- A leader's work moves on. -/
  | proceed {c f : Nat} {key : String} {work work' : ω}
      (hc : g.standing? c = some (key, .leading f work)) :
      Step g (.proceed c work') (g.setPhase c (.leading f work'))
  /-- A leader's work is over. -/
  | settle {c f : Nat} {key : String} {work : ω} {outcome : α}
      (hc : g.standing? c = some (key, .leading f work)) :
      Step g (.settle c outcome) (g.setPhase c (.settled f outcome))
  /-- A leader publishes its outcome. -/
  | publish {c f : Nat} {key : String} {outcome : α}
      (hc : g.standing? c = some (key, .settled f outcome)) :
      Step g (.publish c) ((g.setSignal f (.sent outcome)).setPhase c (.published f outcome))
  /-- A leader retires the record and has its answer. -/
  | retire {c f : Nat} {key : String} {outcome : α}
      (hc : g.standing? c = some (key, .published f outcome)) :
      Step g (.retire c) ((g.forget key f).setPhase c (.finished outcome))
  /-- A waiting caller learns the outcome. -/
  | hear {c f : Nat} {key : String} {outcome : α} (hc : g.standing? c = some (key, .waiting f))
      (hs : g.signal? f = some (.sent outcome)) :
      Step g (.wake c) (g.setPhase c (.finished outcome))
  /-- A waiting caller learns that there will be no outcome. -/
  | startOver {c f : Nat} {key : String} (hc : g.standing? c = some (key, .waiting f))
      (hs : g.signal? f = some .closed) : Step g (.wake c) (g.setPhase c .arriving)
  /-- A waiting caller is dropped. -/
  | leave {c f : Nat} {key : String} (hc : g.standing? c = some (key, .waiting f)) :
      Step g (.drop c) (g.setPhase c .dropped)
  /-- A leader is dropped at work. -/
  | abandon {c f : Nat} {key : String} {work : ω}
      (hc : g.standing? c = some (key, .leading f work)) :
      Step g (.drop c) (((g.forget key f).setSignal f .closed).setPhase c .dropped)

/-- **A possible event does one of the things listed.** -/
theorem step_of_step? {g g' : Gate α ω} {e : Event α ω} (h : g.step? e = some g') :
    Step g e g' := by
  -- An event is not possible for a caller who stands elsewhere, so each split leaves one case.
  cases e with
  | arrive key work =>
    obtain rfl := Option.some.inj h
    exact .arrive key work
  | join c =>
    simp only [step?, join?] at h
    split at h
    · rename_i key work hc
      split at h
      · rename_i flight hr
        obtain rfl := Option.some.inj h
        exact .board (standing?_of_callers hc) hr
      · rename_i hr
        obtain rfl := Option.some.inj h
        exact .lead hc hr
    · cases h
  | proceed c work =>
    simp only [step?, proceed?] at h
    split at h
    · rename_i hc
      obtain rfl := Option.some.inj h
      exact .proceed (standing?_of_callers hc)
    · cases h
  | settle c outcome =>
    simp only [step?, settle?] at h
    split at h
    · rename_i hc
      obtain rfl := Option.some.inj h
      exact .settle (standing?_of_callers hc)
    · cases h
  | publish c =>
    simp only [step?, publish?] at h
    split at h
    · rename_i hc
      obtain rfl := Option.some.inj h
      exact .publish (standing?_of_callers hc)
    · cases h
  | retire c =>
    simp only [step?, retire?] at h
    split at h
    · rename_i hc
      obtain rfl := Option.some.inj h
      exact .retire (standing?_of_callers hc)
    · cases h
  | wake c =>
    simp only [step?, wake?] at h
    split at h
    · rename_i hc
      split at h
      · rename_i hs
        obtain rfl := Option.some.inj h
        exact .hear (standing?_of_callers hc) hs
      · rename_i hs
        obtain rfl := Option.some.inj h
        exact .startOver (standing?_of_callers hc) hs
      · cases h
    · cases h
  | drop c =>
    simp only [step?, drop?] at h
    split at h
    · rename_i hc
      obtain rfl := Option.some.inj h
      exact .leave (standing?_of_callers hc)
    · rename_i hc
      obtain rfl := Option.some.inj h
      exact .abandon (standing?_of_callers hc)
    · cases h

/-- Each of these things is what an event does. -/
theorem step?_of_step {g g' : Gate α ω} {e : Event α ω} (h : Step g e g') :
    g.step? e = some g' := by
  cases h with
  | arrive key work => rfl
  | board hc hr =>
    obtain ⟨work, hc⟩ := exists_callers_of_standing? hc
    simp only [step?, join?, hc, hr]
  | lead hc hr =>
    simp only [step?, join?, hc, hr]
    rfl
  | hear hc hs =>
    obtain ⟨work, hc⟩ := exists_callers_of_standing? hc
    simp only [step?, wake?, hc, hs]
  | startOver hc hs =>
    obtain ⟨work, hc⟩ := exists_callers_of_standing? hc
    simp only [step?, wake?, hc, hs]
  | proceed hc | settle hc | publish hc | retire hc | leave hc | abandon hc =>
    obtain ⟨work, hc⟩ := exists_callers_of_standing? hc
    simp only [step?, proceed?, settle?, publish?, retire?, drop?, hc]

/-! ## A step seen from one caller and from one flight -/

/-- The caller an event is about, if there is one already. -/
def Event.caller? : Event α ω → Option Nat
  | .arrive _ _ => none
  | .join c | .proceed c _ | .settle c _ | .publish c | .retire c | .wake c | .drop c => some c

/-- What an event does to the caller `c` for `key` that it is about: from one phase to another. -/
inductive Turn (g : Gate α ω) (c : Nat) (key : String) :
    Event α ω → Phase α ω → Phase α ω → Prop where
  | board {f : Nat} (hr : g.records.lookup key = some f) :
      Turn g c key (.join c) .arriving (.waiting f)
  | lead {work : ω} (hr : g.records.lookup key = none)
      (hw : g.callers[c]? = some ⟨key, work, .arriving⟩) :
      Turn g c key (.join c) .arriving (.leading g.flights.size work)
  | proceed {f : Nat} {work work' : ω} :
      Turn g c key (.proceed c work') (.leading f work) (.leading f work')
  | settle {f : Nat} {work : ω} {outcome : α} :
      Turn g c key (.settle c outcome) (.leading f work) (.settled f outcome)
  | publish {f : Nat} {outcome : α} :
      Turn g c key (.publish c) (.settled f outcome) (.published f outcome)
  | retire {f : Nat} {outcome : α} :
      Turn g c key (.retire c) (.published f outcome) (.finished outcome)
  | hear {f : Nat} {outcome : α} (hs : g.signal? f = some (.sent outcome)) :
      Turn g c key (.wake c) (.waiting f) (.finished outcome)
  | startOver {f : Nat} (hs : g.signal? f = some .closed) :
      Turn g c key (.wake c) (.waiting f) .arriving
  | leave {f : Nat} : Turn g c key (.drop c) (.waiting f) .dropped
  | abandon {f : Nat} {work : ω} : Turn g c key (.drop c) (.leading f work) .dropped

section Views

variable {g g' : Gate α ω} {e : Event α ω} {c d f : Nat} {key : String} {p q : Phase α ω}
  {signal : Signal α}

theorem Turn.caller?_eq (h : Turn g c key e p q) : e.caller? = some c := by
  cases h <;> rfl

/-- Someone comes, or the caller whom the event is about takes a turn and everybody else stays. -/
theorem Step.standing_cases (hs : Step g e g') :
    (∃ k work, e = .arrive k work ∧ g' = g.arrive k work) ∨
      ∃ c k p q, g.standing? c = some (k, p) ∧ Turn g c k e p q ∧
        ∀ d, g'.standing? d = if c = d then some (k, q) else g.standing? d := by
  cases hs with
  | arrive k work => exact .inl ⟨k, work, rfl, rfl⟩
  | board hc hr => exact .inr ⟨_, _, _, _, hc, .board hr, fun _ => standing?_setPhase_of hc⟩
  | lead hc hr =>
    have hs := standing?_of_callers hc
    exact .inr ⟨_, _, _, _, hs, .lead hr hc, fun _ => standing?_setPhase_of hs⟩
  | proceed hc => exact .inr ⟨_, _, _, _, hc, .proceed, fun _ => standing?_setPhase_of hc⟩
  | settle hc => exact .inr ⟨_, _, _, _, hc, .settle, fun _ => standing?_setPhase_of hc⟩
  | publish hc => exact .inr ⟨_, _, _, _, hc, .publish, fun _ => standing?_setPhase_of hc⟩
  | retire hc => exact .inr ⟨_, _, _, _, hc, .retire, fun _ => standing?_setPhase_of hc⟩
  | hear hc hs => exact .inr ⟨_, _, _, _, hc, .hear hs, fun _ => standing?_setPhase_of hc⟩
  | startOver hc hs => exact .inr ⟨_, _, _, _, hc, .startOver hs, fun _ => standing?_setPhase_of hc⟩
  | leave hc => exact .inr ⟨_, _, _, _, hc, .leave, fun _ => standing?_setPhase_of hc⟩
  | abandon hc => exact .inr ⟨_, _, _, _, hc, .abandon, fun _ => standing?_setPhase_of hc⟩

/-- How a caller came to stand where it stands. -/
theorem Step.standing (hs : Step g e g') (h : g'.standing? d = some (key, q)) :
    g.standing? d = some (key, q) ∧ e.caller? ≠ some d ∨ q = .arriving ∧ g.standing? d = none ∨
      ∃ p, g.standing? d = some (key, p) ∧ Turn g d key e p q := by
  rcases hs.standing_cases with ⟨k, work, rfl, rfl⟩ | ⟨c, k, p, q', hc, turn, he⟩
  · -- Somebody comes: either `d` itself, who was not there, or somebody else.
    rw [standing?_arrive] at h
    split at h
    · rename_i hd
      obtain ⟨rfl, rfl⟩ := Prod.mk.inj (Option.some.inj h)
      exact .inr (.inl ⟨rfl, hd ▸ standing?_size⟩)
    · exact .inl ⟨h, by simp [Event.caller?]⟩
  · rw [he] at h
    split at h
    · rename_i hd
      subst hd
      obtain ⟨rfl, rfl⟩ := Prod.mk.inj (Option.some.inj h)
      exact .inr (.inr ⟨p, hc, turn⟩)
    · rename_i hd
      exact .inl ⟨h, by simp [turn.caller?_eq, hd]⟩

/-- Where a caller goes. -/
theorem Step.standing_after (hs : Step g e g') (h : g.standing? d = some (key, p)) :
    g'.standing? d = some (key, p) ∧ e.caller? ≠ some d ∨
      ∃ q, g'.standing? d = some (key, q) ∧ Turn g d key e p q := by
  rcases hs.standing_cases with ⟨k, work, rfl, rfl⟩ | ⟨c, k, p', q, hc, turn, he⟩
  · have hne : d ≠ g.callers.size := Nat.ne_of_lt (lt_size_of_standing? h)
    exact .inl ⟨by rw [standing?_arrive, if_neg hne, h], by simp [Event.caller?]⟩
  · rw [he]
    split
    · rename_i hd
      subst hd
      obtain ⟨rfl, rfl⟩ := standing?_inj hc h
      exact .inr ⟨q, rfl, turn⟩
    · rename_i hd
      exact .inl ⟨h, by simp [turn.caller?_eq, hd]⟩

/-- The caller an event is about is there, and takes a turn. -/
theorem Step.turn (hs : Step g e g') (h : e.caller? = some c) : ∃ key p q,
    g.standing? c = some (key, p) ∧ g'.standing? c = some (key, q) ∧ Turn g c key e p q := by
  rcases hs.standing_cases with ⟨k, work, rfl, -⟩ | ⟨d, k, p, q, hd, turn, he⟩
  · cases h
  · obtain rfl := Option.some.inj (turn.caller?_eq.symm.trans h)
    exact ⟨k, p, q, hd, by rw [he, if_pos rfl], turn⟩

/-- What an event makes of the signal of a flight. -/
inductive Change (g : Gate α ω) (f : Nat) : Event α ω → Signal α → Prop where
  | publish {c : Nat} {key : String} {outcome : α}
      (hc : g.standing? c = some (key, .settled f outcome)) :
      Change g f (.publish c) (.sent outcome)
  | abandon {c : Nat} {key : String} {work : ω}
      (hc : g.standing? c = some (key, .leading f work)) : Change g f (.drop c) .closed

/-- How a flight came by its signal. -/
theorem Step.flight (hs : Step g e g') (h : g'.flights[f]? = some ⟨key, signal⟩) :
    g.flights[f]? = some ⟨key, signal⟩ ∨ signal = .pending ∧ g.flights[f]? = none ∨
      Change g f e signal ∧ ∃ former, g.flights[f]? = some ⟨key, former⟩ := by
  -- Three steps touch flights: one adds a flight, the two others change a signal.
  cases hs with
  | lead hc hr =>
    rw [flights_setPhase, takeOff, Array.getElem?_push] at h
    split at h
    · rename_i hf
      simp only [Option.some.injEq, Flight.mk.injEq] at h
      exact .inr (.inl ⟨h.2.symm, by simp [hf]⟩)
    · exact .inl h
  | publish hc =>
    rw [flights_setPhase, getElem?_flights_setSignal] at h
    split at h
    · rename_i hf
      subst hf
      obtain ⟨⟨k, former⟩, hf, he⟩ := Option.map_eq_some_iff.mp h
      obtain ⟨rfl, rfl⟩ := Flight.mk.inj he
      exact .inr (.inr ⟨.publish hc, former, hf⟩)
    · exact .inl h
  | abandon hc =>
    rw [flights_setPhase, getElem?_flights_setSignal] at h
    split at h
    · rename_i hf
      subst hf
      obtain ⟨⟨k, former⟩, hf, he⟩ := Option.map_eq_some_iff.mp h
      obtain ⟨rfl, rfl⟩ := Flight.mk.inj he
      exact .inr (.inr ⟨.abandon hc, former, hf⟩)
    · exact .inl h
  | _ => exact .inl h

/-- What becomes of a flight. -/
theorem Step.flight_after (hs : Step g e g') (h : g.flights[f]? = some ⟨key, signal⟩) :
    g'.flights[f]? = some ⟨key, signal⟩ ∨
      ∃ signal', g'.flights[f]? = some ⟨key, signal'⟩ ∧ Change g f e signal' := by
  cases hs with
  | lead hc hr =>
    -- The new flight is the last one, so it is none of those that were there.
    have hlt := (Array.getElem?_eq_some_iff.mp h).1
    refine .inl ?_
    rw [flights_setPhase, takeOff, Array.getElem?_push, if_neg (Nat.ne_of_lt hlt), h]
  | @publish c f' k outcome hc =>
    rw [flights_setPhase, getElem?_flights_setSignal]
    split
    · rename_i hf
      subst hf
      exact .inr ⟨.sent outcome, by simp [h], .publish hc⟩
    · exact .inl h
  | @abandon c f' k work hc =>
    rw [flights_setPhase, getElem?_flights_setSignal]
    split
    · rename_i hf
      subst hf
      exact .inr ⟨.closed, by simp [h], .abandon hc⟩
    · exact .inl h
  | _ => exact .inl h

end Views

end Gate

end ReadThrough
