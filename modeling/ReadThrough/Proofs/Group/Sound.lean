import ReadThrough.Proofs.Group.Steps

/-!
# The invariant of the traffic

The gate and the store keep their own invariants in traffic, and nobody is at the gate without a
key. From there a step is seen from the caller it is about.

## Main definitions

* `Traffic.Sound t`: the invariant
* `Traffic.Turn t c key e p q`: what an event does to the caller it is about

## Main results

* `Traffic.Sound.step`, `Traffic.Sound.of_run`: every step and every run keeps the invariant
* `Traffic.sound_of_run`: the invariant holds in every state a run comes to
* `Traffic.kept_of_run`, `Traffic.gate_kept_of_run`: what every step keeps holds at the end of a run
* `Traffic.Step.standing`: how a caller came to stand where it stands
* `Traffic.Sound.find?_cases`: what the store answers after a step
-/

namespace ReadThrough

/-! ## Keys and works of callers -/

namespace Gate

variable {α ω : Type} {g g' : Gate α ω} {c d : Nat} {phase : Phase α ω}

theorem getElem?_callers_setPhase : (g.setPhase c phase).callers[d]? =
    if c = d then g.callers[d]?.map ({ · with phase }) else g.callers[d]? :=
  Array.getElem?_modify ..

/-- A caller keeps its key and its work. -/
theorem Step.caller {e : Event α ω} (hs : Step g e g') {x : Caller α ω}
    (h : g'.callers[d]? = some x) :
    (∃ y, g.callers[d]? = some y ∧ y.key = x.key ∧ y.work = x.work) ∨ e = .arrive x.key x.work := by
  -- All but a newcomer were there before, in one phase or another.
  have stays : ∀ {g₀ : Gate α ω} {c : Nat} {phase : Phase α ω}, g₀.callers = g.callers →
      (g₀.setPhase c phase).callers[d]? = some x →
        ∃ y, g.callers[d]? = some y ∧ y.key = x.key ∧ y.work = x.work := by
    intro g₀ c phase hg hx
    rw [getElem?_callers_setPhase, hg] at hx
    split at hx
    · obtain ⟨y, hy, rfl⟩ := Option.map_eq_some_iff.mp hx
      exact ⟨y, hy, rfl, rfl⟩
    · exact ⟨x, hx, rfl, rfl⟩
  cases hs with
  | arrive key work =>
    rw [Gate.arrive, Array.getElem?_push] at h
    split at h
    · obtain rfl := Option.some.inj h
      exact .inr rfl
    · exact .inl ⟨x, h, rfl, rfl⟩
  | _ => exact .inl (stays (by rfl) h)

end Gate

namespace Traffic

variable {t t' : Traffic} {c d f : Nat} {key k : String} {p q phase : Phase Outcome Load}
  {out : List Output} {e : Event}

/-! ## The invariant -/

/-- What holds of traffic between any two steps. -/
structure Sound (t : Traffic) : Prop where
  /-- The gate keeps its invariant. -/
  gate : t.gate.Sound
  /-- The entries of the store are in order. -/
  store : t.group.store.Sound
  /-- Nobody is at the gate without a key, and everybody's load begins with a look. -/
  callers : ∀ (c : Nat) (x : Caller Outcome Load), t.gate.callers[c]? = some x →
    x.key ≠ "" ∧ x.work = .fresh

theorem Sound.ofGroup (name : String) (bytes : Nat) (limit : Option Nat) :
    (Traffic.ofGroup (.create name bytes limit)).Sound where
  gate := .empty
  store := .empty bytes
  callers c x hx := by simp [Traffic.ofGroup, Gate.empty] at hx

theorem Sound.key_ne (sound : t.Sound) (h : t.gate.standing? c = some (key, p)) : key ≠ "" := by
  obtain ⟨work, hc⟩ := Gate.exists_callers_of_standing? h
  exact (sound.callers c _ hc).1

/-- **Every step keeps the invariant.** -/
theorem Sound.step (sound : t.Sound) (h : Step t e t' out) : t'.Sound where
  gate := by
    rcases h.gate with he | ⟨ge, hg, -⟩
    · rw [he]
      exact sound.gate
    · exact sound.gate.step hg
  store := by
    rcases h.store with ⟨-, key, value, -, he⟩ | ⟨-, he | ⟨key, he⟩⟩
    · rw [he]
      exact sound.store.add key value
    · rw [he]
      exact sound.store
    · rw [he]
      exact sound.store.get key
  callers c x hx := by
    rcases h.gate with he | ⟨ge, hg, hnew⟩
    · rw [he] at hx
      exact sound.callers c x hx
    · rcases hg.caller hx with ⟨y, hy, hkey, hwork⟩ | he
      · rw [← hkey, ← hwork]
        exact sound.callers c y hy
      · exact (hnew _ _ he).2

/-- A run keeps the invariant. -/
theorem Sound.of_run {ms : List (Moment Traffic Event)} (sound : t.Sound)
    (run : Run after? t ms t') : t'.Sound :=
  run.invariant sound fun h hs => h.step (step_of_after? hs)

/-- **The invariant holds in every state a run comes to.** -/
theorem sound_of_run {name : String} {bytes : Nat} {limit : Option Nat}
    {ms : List (Moment Traffic Event)}
    (run : Run after? (Traffic.ofGroup (.create name bytes limit)) ms t) : t.Sound :=
  (Sound.ofGroup name bytes limit).of_run run

/-- What every step keeps holds at the end of a run. -/
theorem kept_of_run {P : Traffic → Prop} {ms : List (Moment Traffic Event)}
    (run : Run after? t ms t') (sound : t.Sound) (start : P t)
    (keep : ∀ {t e t' out}, t.Sound → Step t e t' out → P t → P t') : P t' := by
  induction run with
  | nil => exact start
  | snoc run he ih => exact keep (sound.of_run run) (step_of_after? he) ih

/-- What every step of the gate keeps holds of the gate at the end of a run. -/
theorem gate_kept_of_run {P : Gate Outcome Load → Prop} {ms : List (Moment Traffic Event)}
    (run : Run after? t ms t') (sound : t.Sound) (start : P t.gate)
    (keep : ∀ {g ge g'}, g.Sound → Gate.Step g ge g' → P g → P g') : P t'.gate := by
  apply kept_of_run (P := fun t => P t.gate) run sound start
  intro t e t' out sound hs h
  rcases hs.gate with he | ⟨ge, hg, -⟩
  · rw [he]
    exact h
  · exact keep sound.gate hg h

/-- **What the store answers after a step**: what it did before, but for a value just stored and
the entries it evicts. -/
theorem Sound.find?_cases (sound : t.Sound) (h : Step t e t' out) :
    (∃ side key value, t.call? e = some (side, key, .ok value) ∧
        t'.group.store = (t.group.store.add key value).1) ∨
      (∀ side key value, t.call? e ≠ some (side, key, .ok value)) ∧
        ∀ k, t'.group.store.find? k = t.group.store.find? k := by
  rcases h.store with hadd | ⟨hno, he | ⟨key, he⟩⟩
  · exact .inl hadd
  · exact .inr ⟨hno, fun k => by rw [he]⟩
  · exact .inr ⟨hno, fun k => by rw [he, sound.store.find?_get]⟩

/-! ## A step seen from one caller -/

/-- The caller an event is about, if there is one already. -/
def Event.caller? : Event → Option Nat
  | .join c | .lookAgain c _ | .hold c | .receive c _ | .expire c | .publish c | .retire c
  | .wake c | .drop c => some c
  | .look _ | .tick _ | .registerPeers | .countRequest => none

/-- What an event does to the caller `c` for `key` that it is about: from one phase to another. -/
inductive Turn (t : Traffic) (c : Nat) (key : String) :
    Event → Phase Outcome Load → Phase Outcome Load → Prop where
  | board {f : Nat} (hr : t.gate.records.lookup key = some f) :
      Turn t c key (.join c) .arriving (.waiting f)
  | lead (hr : t.gate.records.lookup key = none) :
      Turn t c key (.join c) .arriving (.leading t.gate.flights.size .fresh)
  | found {f : Nat} {value : Value} {owner : Option String}
      (hv : t.group.store.find? key = some value) :
      Turn t c key (.lookAgain c owner) (.leading f .fresh) (.settled f (.ok value))
  | ask {f : Nat} {owner : Option String} (hv : t.group.store.find? key = none) :
      Turn t c key (.lookAgain c owner) (.leading f .fresh)
        (.leading f (.asking (t.group.firstSide owner) t.now))
  | hold {f since : Nat} {side : Side} : Turn t c key (.hold c)
      (.leading f (.asking side since)) (.leading f (.awaiting side since))
  | settle {f since : Nat} {load : Load} {side : Side} {outcome : Outcome}
      (ha : load.asked? = some (side, since)) :
      Turn t c key (.receive c outcome) (.leading f load) (.settled f outcome)
  | fallBack {f since : Nat} {load : Load} {name text : String}
      (ha : load.asked? = some (.peer name, since)) :
      Turn t c key (.receive c (.error (.peer text))) (.leading f load)
        (.leading f (.asking .loader since))
  | expire {f since limit : Nat} {side : Side} (hl : t.group.limit = some limit)
      (ho : t.isOver since) : Turn t c key (.expire c) (.leading f (.awaiting side since))
        (.settled f (Group.overdue key limit))
  | publish {f : Nat} {outcome : Outcome} :
      Turn t c key (.publish c) (.settled f outcome) (.published f outcome)
  | retire {f : Nat} {outcome : Outcome} :
      Turn t c key (.retire c) (.published f outcome) (.finished outcome)
  | hear {f : Nat} {outcome : Outcome} (hs : t.gate.signal? f = some (.sent outcome)) :
      Turn t c key (.wake c) (.waiting f) (.finished outcome)
  | startOver {f : Nat} (hs : t.gate.signal? f = some .closed) :
      Turn t c key (.wake c) (.waiting f) .arriving
  | leave {f : Nat} : Turn t c key (.drop c) (.waiting f) .dropped
  | abandon {f : Nat} {load : Load} : Turn t c key (.drop c) (.leading f load) .dropped

/-- A caller took the turn, and everybody else stays. -/
theorem standing_of_turn (hc : t.gate.standing? c = some (k, p)) (he : e.caller? = some c)
    (turn : Turn t c k e p phase) (hq : (t.gate.setPhase c phase).standing? d = some (key, q)) :
    t.gate.standing? d = some (key, q) ∧ e.caller? ≠ some d ∨
      q = .arriving ∧ t.gate.standing? d = none ∨
      ∃ p, t.gate.standing? d = some (key, p) ∧ Turn t d key e p q := by
  rcases Gate.standing_of_setPhase hc hq with ⟨hd, h⟩ | ⟨rfl, rfl, rfl⟩
  · exact .inl ⟨h, by simp [he, hd]⟩
  · exact .inr (.inr ⟨p, hc, turn⟩)

/-- The gate took a step by itself, and what this did to a caller is a turn of the traffic. -/
theorem standing_of_gate {ge : Gate.Event Outcome Load} {gate : Gate Outcome Load}
    (hg : t.gate.Step ge gate) (he : e.caller? = ge.caller?)
    (turn : ∀ p, t.gate.Turn d key ge p q → Turn t d key e p q)
    (hq : gate.standing? d = some (key, q)) :
    t.gate.standing? d = some (key, q) ∧ e.caller? ≠ some d ∨
      q = .arriving ∧ t.gate.standing? d = none ∨
      ∃ p, t.gate.standing? d = some (key, p) ∧ Turn t d key e p q := by
  rcases hg.standing hq with ⟨h, hne⟩ | h | ⟨p, hp, hturn⟩
  · rw [he]
    exact .inl ⟨h, hne⟩
  · exact .inr (.inl h)
  · exact .inr (.inr ⟨p, hp, turn p hturn⟩)

/-- **How a caller came to stand where it stands.** -/
theorem Step.standing (h : Step t e t' out) (sound : t.Sound)
    (hq : t'.gate.standing? d = some (key, q)) :
    t.gate.standing? d = some (key, q) ∧ e.caller? ≠ some d ∨
      q = .arriving ∧ t.gate.standing? d = none ∨
      ∃ p, t.gate.standing? d = some (key, p) ∧ Turn t d key e p q := by
  cases h with
  | refuse => exact .inl ⟨hq, by simp [Event.caller?]⟩
  | hit hk hv => exact .inl ⟨hq, by simp [Event.caller?]⟩
  | miss hk hv => exact standing_of_gate (.arrive _ _) rfl nofun hq
  | join hg =>
    refine standing_of_gate hg rfl (fun p turn => ?_) hq
    cases turn with
    | board hr => exact .board hr
    | lead hr hw =>
      -- Whoever leads does what it brought along, and this is to look again.
      obtain rfl := (sound.callers _ _ hw).2
      exact .lead hr
  | found hc hv => exact standing_of_turn hc rfl (.found hv) hq
  | ask hc hv => exact standing_of_turn hc rfl (.ask hv) hq
  | hold hc => exact standing_of_turn hc rfl .hold hq
  | settle hc ha hr => exact standing_of_turn hc rfl (.settle ha) hq
  | fallBack hc ha => exact standing_of_turn hc rfl (.fallBack ha) hq
  | expire hc hl ho => exact standing_of_turn hc rfl (.expire hl ho) hq
  | publish hg =>
    refine standing_of_gate hg rfl (fun p turn => ?_) hq
    cases turn with
    | publish => exact .publish
  | retire hg =>
    refine standing_of_gate hg rfl (fun p turn => ?_) hq
    cases turn with
    | retire => exact .retire
  | wake hg =>
    refine standing_of_gate hg rfl (fun p turn => ?_) hq
    cases turn with
    | hear hs => exact .hear hs
    | startOver hs => exact .startOver hs
  | drop hg =>
    refine standing_of_gate hg rfl (fun p turn => ?_) hq
    cases turn with
    | leave => exact .leave
    | abandon => exact .abandon
  | tick => exact .inl ⟨hq, by simp [Event.caller?]⟩
  | registerPeers hp => exact .inl ⟨hq, by simp [Event.caller?]⟩
  | countRequest => exact .inl ⟨hq, by simp [Event.caller?]⟩

/-- Whoever is new came with a lookup of its key, and has the next number. -/
theorem Step.newcomer (h : Step t e t' out) (hq : t'.gate.standing? d = some (key, q))
    (hn : t.gate.standing? d = none) :
    e = .look key ∧ t.gate.callers.size = d ∧ t'.gate.callers.size = d + 1 := by
  rcases h.gate with he | ⟨ge, hg, hnew⟩
  · rw [he, hn] at hq
    cases hq
  · obtain ⟨work, hd⟩ := Gate.exists_callers_of_standing? hq
    rcases hg.caller hd with ⟨y, hy, -⟩ | rfl
    · simp [Gate.standing?, hy] at hn
    · -- Callers are numbered as they come, and nobody came but this one.
      have hlt : d < t'.gate.callers.size := Gate.lt_size_of_standing? hq
      have hge : ¬ d < t.gate.callers.size := fun hlt => by simp [Gate.standing?, hlt] at hn
      refine ⟨(hnew _ _ rfl).1, ?_⟩
      generalize t'.gate = gate at hg hlt
      cases hg with
      | arrive _ _ =>
        rw [Gate.arrive, Array.size_push] at hlt ⊢
        omega

end Traffic

end ReadThrough
