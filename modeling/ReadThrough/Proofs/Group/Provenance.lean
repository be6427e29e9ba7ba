import Mathlib
import ReadThrough.Proofs.Group.Answers

/-!
# The provenance of answers

Nobody is answered with a value for another key, or with one that no source has given, however
values are stored, shared, evicted and loaded again. A fault is never kept for later: whoever is
answered with one was there already when a source answered with it or a limit was over.

The latter needs tasks to run from await to await. If another lookup could begin between the moment
when a load fails and the moment when its record is gone, it would still join the flight and learn
of a fault that is older than itself.

## Main definitions

* `Traffic.AwaitToAwait ms`: nothing happens in the middle of a caller's turn
* `Traffic.Since ms key c m`: caller `c` had begun its lookup of `key` when `m` happened
* `Traffic.Provenance ms t e`: what is known of the answers that event `e` gives after `ms`

## Main results

* `Traffic.timely_of_run`: no fault is older than those who will learn of it
* `Traffic.provenance`: where the answers of every event come from
-/

namespace ReadThrough.Traffic

variable {t t' : Traffic} {c d f bytes : Nat} {key name : String} {limit : Option Nat}
  {load : Load} {e : Event} {side : Side} {outcome : Outcome} {fault : Fault}
  {p q phase : Phase Outcome Load} {out : List Output} {ms : List (Moment Traffic Event)}
  {m m' : Moment Traffic Event}

/-! ## Turns and beginnings -/

/-- A caller at an await: it waits for a flight or for a source, or it has left. -/
def parked : Phase Outcome Load → Bool
  | .waiting _ | .leading _ (.awaiting _ _) | .finished _ | .dropped => true
  | _ => false

/-- Tasks run from await to await: while a caller is in the middle of its turn nothing happens but
its own next step. -/
def AwaitToAwait (ms : List (Moment Traffic Event)) : Prop :=
  ∀ m ∈ ms, ∀ c key phase, m.before.gate.standing? c = some (key, phase) →
    parked phase = false → m.event.caller? = some c

/-- Tasks run from await to await, as a test of all callers that there are. -/
def takesTurns (ms : List (Moment Traffic Event)) : Bool :=
  ms.all fun m => (List.range m.before.gate.callers.size).all fun c =>
    (m.before.gate.standing? c).all fun x => parked x.2 || m.event.caller? == some c

theorem awaitToAwait_iff : AwaitToAwait ms ↔ takesTurns ms = true := by
  simp only [AwaitToAwait, takesTurns, List.all_eq_true, List.mem_range, Option.all_eq_true,
    Bool.or_eq_true, beq_iff_eq]
  constructor
  · intro h m hm c _ x hx
    cases hp : parked x.2 with
    | true => exact .inl rfl
    | false => exact .inr (h m hm c x.1 x.2 hx hp)
  · -- Nobody stands anywhere but the callers that there are.
    intro h m hm c key phase hc hp
    rcases h m hm c (Gate.lt_size_of_standing? hc) (key, phase) hc with hparked | hcaller
    · rw [hp] at hparked
      cases hparked
    · exact hcaller

/-- Caller `c` had begun its lookup of `key` when `m` happened. -/
def Since (ms : List (Moment Traffic Event)) (key : String) (c : Nat)
    (m : Moment Traffic Event) : Prop :=
  ∃ pre start post, ms = pre ++ start :: post ∧ start.event = .look key ∧
    start.before.gate.callers.size = c ∧ start.after.gate.callers.size = c + 1 ∧ m ∈ post

theorem Since.snoc (h : Since ms key c m) : Since (ms ++ [m']) key c m := by
  obtain ⟨pre, start, post, rfl, he, hb, ha, hm⟩ := h
  exact ⟨pre, start, post ++ [m'], by simp, he, hb, ha, List.mem_append_left _ hm⟩

/-- Whoever is at the gate has begun its lookup. -/
theorem exists_start (run : Run after? (ofGroup (.create name bytes limit)) ms t)
    (h : t.gate.standing? c = some (key, phase)) :
    ∃ pre start post, ms = pre ++ start :: post ∧ start.event = .look key ∧
      start.before.gate.callers.size = c ∧ start.after.gate.callers.size = c + 1 := by
  induction run generalizing phase with
  | nil => simp [ofGroup] at h
  | @snoc ms t t' e run he ih =>
    have step := step_of_after? he
    have old {p : Phase Outcome Load} (hp : t.gate.standing? c = some (key, p)) :
        ∃ pre start post, ms ++ [⟨t, e, t'⟩] = pre ++ start :: post ∧ start.event = .look key ∧
          start.before.gate.callers.size = c ∧ start.after.gate.callers.size = c + 1 := by
      obtain ⟨pre, start, post, rfl, hs⟩ := ih hp
      exact ⟨pre, start, post ++ [⟨t, e, t'⟩], by simp, hs⟩
    rcases step.standing (sound_of_run run) h with ⟨h', -⟩ | ⟨-, hn⟩ | ⟨p, hp, -⟩
    · exact old h'
    · -- The caller is new, so this very moment is its beginning.
      obtain ⟨rfl, hb, ha⟩ := step.newcomer h hn
      exact ⟨ms, ⟨t, _, t'⟩, [], rfl, rfl, hb, ha⟩
    · exact old hp

/-- Whoever is at the gate has begun its lookup before what happens next. -/
theorem since_next (run : Run after? (ofGroup (.create name bytes limit)) ms t)
    (h : t.gate.standing? c = some (key, phase)) : Since (ms ++ [m]) key c m := by
  obtain ⟨pre, start, post, rfl, he, hb, ha⟩ := exists_start run h
  exact ⟨pre, start, post ++ [m], by simp, he, hb, ha, by simp⟩

/-- Only a lookup brings somebody new. -/
theorem Step.standing_before (h : Step t e t' out) (sound : t.Sound)
    (hq : t'.gate.standing? d = some (key, q)) (hne : ∀ key, e ≠ .look key) :
    ∃ p, t.gate.standing? d = some (key, p) := by
  rcases h.standing sound hq with ⟨hq', -⟩ | ⟨-, hn⟩ | ⟨p, hp, -⟩
  · exact ⟨q, hq'⟩
  · exact absurd (h.newcomer hq hn).1 (hne key)
  · exact ⟨p, hp⟩

/-! ## No fault is older than those who learn of it -/

/-- No fault is older than those who will learn of it. -/
structure Timely (ms : List (Moment Traffic Event)) (t : Traffic) : Prop where
  /-- The fault of a leader came about when everybody who is there now was there. -/
  result : ∀ c key phase fault, t.gate.standing? c = some (key, phase) →
    phase.result? = some (.error fault) → ∃ m, Yields m key (.error fault) ∧
      ∀ d k q, t.gate.standing? d = some (k, q) → Since ms k d m
  /-- The fault that a waiting caller can learn came about when it was there. -/
  sent : ∀ d f key fault, t.gate.standing? d = some (key, .waiting f) →
    t.gate.flights[f]? = some ⟨key, .sent (.error fault)⟩ →
      ∃ m, Yields m key (.error fault) ∧ Since ms key d m

theorem not_parked_of_result? (h : phase.result? = some outcome) : parked phase = false := by
  cases phase <;> first | rfl | cases h

theorem result?_of_signal? (h : phase.signal? = some (.sent outcome)) :
    phase.result? = some outcome := by
  cases phase with
  | published f outcome' =>
    obtain rfl := Signal.sent.inj (Option.some.inj h)
    rfl
  | _ => cases h

/-- **No fault is older than those who will learn of it**, if tasks run from await to await. -/
theorem timely_of_run (run : Run after? (ofGroup (.create name bytes limit)) ms t)
    (turns : AwaitToAwait ms) : Timely ms t := by
  induction run with
  | nil => exact ⟨fun c key phase fault h => by simp [ofGroup] at h,
      fun d f key fault h => by simp [ofGroup] at h⟩
  | @snoc ms t t' e run he ih =>
    have step := step_of_after? he
    have sound := sound_of_run run
    have ih := ih fun m hm => turns m (List.mem_append_left _ hm)
    have turn := turns ⟨t, e, t'⟩ (List.mem_append_right _ List.mem_cons_self)
    refine ⟨fun c key phase fault hc hr => ?_, fun d f key fault hd hf => ?_⟩
    · rcases step.result sound hc hr with ⟨p, hp, hpr⟩ | ⟨value, hv, -⟩ | hy
      · -- The leader is in the middle of its turn, so that nobody new comes.
        have hcaller : e.caller? = some c := turn c key p hp (not_parked_of_result? hpr)
        have hne : ∀ key, e ≠ .look key := by
          rintro key rfl
          cases hcaller
        obtain ⟨m, hm, hall⟩ := ih.result c key p fault hp hpr
        refine ⟨m, hm, fun d k q hd => ?_⟩
        obtain ⟨q', hd'⟩ := step.standing_before sound hd hne
        exact (hall d k q' hd').snoc
      · cases hv
      · -- The fault comes about now, when everybody who is there has come before.
        have hne : ∀ key, e ≠ .look key := by
          rintro key rfl
          cases hy with
          | answered h => cases h
          | overdue h => cases h
        refine ⟨_, hy, fun d k q hd => ?_⟩
        obtain ⟨q', hd'⟩ := step.standing_before sound hd hne
        exact since_next run hd'
    · -- Whoever waits after the step was there before it, whether it waited already or not.
      obtain ⟨p, hp, hwait⟩ : ∃ p, t.gate.standing? d = some (key, p) ∧
          (p = .waiting f ∨ t.gate.records.lookup key = some f) := by
        rcases step.standing sound hd with ⟨hd', -⟩ | ⟨h, -⟩ | ⟨p, hp, turn⟩
        · exact ⟨_, hd', .inl rfl⟩
        · cases h
        · cases turn with
          | board hr => exact ⟨_, hp, .inr hr⟩
      have of_leader {c : Nat} {phase : Phase Outcome Load}
          (hc : t.gate.standing? c = some (key, phase))
          (hr : phase.result? = some (.error fault)) :
          ∃ m, Yields m key (.error fault) ∧ Since (ms ++ [⟨t, e, t'⟩]) key d m := by
        obtain ⟨m, hm, hall⟩ := ih.result c key phase fault hc hr
        exact ⟨m, hm, (hall d key p hp).snoc⟩
      rcases step.sent sound hf with hf | ⟨c, phase, hc, hr⟩
      · rcases hwait with rfl | hr
        · obtain ⟨m, hm, hs⟩ := ih.sent d f key fault hp hf
          exact ⟨m, hm, hs.snoc⟩
        · obtain ⟨c, phase, hc, hl⟩ := sound.gate.lookup_eq_some_iff.mp hr
          obtain ⟨signal, hs, hf'⟩ := sound.gate.flight_of_led c key phase f hc hl
          obtain ⟨-, rfl⟩ := Gate.flights_inj hf hf'
          exact of_leader hc (result?_of_signal? hs)
      · exact of_leader hc hr

/-- A caller that is answered with a fault was there when it came about. -/
theorem exists_since_of_answered (run : Run after? (ofGroup (.create name bytes limit)) ms t)
    (turns : AwaitToAwait ms) (h : .answered key (.error fault) ∈ t.shown e) (hk : key ≠ "") :
    ∃ c m, e.caller? = some c ∧ Yields m key (.error fault) ∧ Since ms key c m := by
  have timely := timely_of_run run turns
  generalize ho : (.error fault : Outcome) = outcome at h
  cases answer_of_shown (sound_of_run run) h with
  | refused => exact absurd rfl hk
  | stored _ hv => cases ho
  | @led c f _ _ hc =>
    subst ho
    obtain ⟨m, hm, hall⟩ := timely.result c key _ fault hc rfl
    exact ⟨c, m, rfl, hm, hall c key _ hc⟩
  | @shared c f _ _ hc hf =>
    subst ho
    obtain ⟨m, hm, hs⟩ := timely.sent c f key fault hc hf
    exact ⟨c, m, rfl, hm, hs⟩

/-! ## Sources are asked before they answer -/

theorem Step.asked_first {owner : Option String} (h : Step t (.lookAgain c owner) t' out)
    (hc : t.gate.standing? c = some (key, .leading f .fresh))
    (hv : t.group.store.find? key = none) : out = [.asked (t.group.firstSide owner) key] := by
  cases h with
  | found hc' hv' =>
    obtain ⟨rfl, -⟩ := Gate.standing?_inj hc hc'
    rw [hv] at hv'
    cases hv'
  | ask hc' hv' =>
    obtain ⟨rfl, -⟩ := Gate.standing?_inj hc hc'
    rfl

theorem Step.asked_next {peer text : String} {since : Nat}
    (h : Step t (.receive c (.error (.peer text))) t' out)
    (hc : t.gate.standing? c = some (key, .leading f load))
    (ha : load.asked? = some (.peer peer, since)) : out = [.asked .loader key] := by
  cases h with
  | settle hc' ha' hr =>
    -- A load is not over as long as the loader can be asked instead.
    obtain ⟨rfl, hp⟩ := Gate.standing?_inj hc hc'
    obtain ⟨-, rfl⟩ := Phase.leading.inj hp
    obtain ⟨rfl, -⟩ := Prod.mk.inj (Option.some.inj (ha.symm.trans ha'))
    cases hr
  | fallBack hc' ha' =>
    obtain ⟨rfl, -⟩ := Gate.standing?_inj hc hc'
    rfl

/-- A load that has asked a source has asked it for the leader's key. -/
theorem exists_asked (run : Run after? (ofGroup (.create name bytes limit)) ms t) {since : Nat}
    (h : t.gate.standing? c = some (key, .leading f load)) (ha : load.asked? = some (side, since)) :
    ∃ m ∈ ms, .asked side key ∈ m.before.shown m.event := by
  -- The source is the one asked first, or the loader after a peer had trouble.
  induction run generalizing f load since with
  | nil => simp [ofGroup] at h
  | @snoc ms t t' e run he ih =>
    have step := step_of_after? he
    have old (h : ∃ m ∈ ms, .asked side key ∈ m.before.shown m.event) :
        ∃ m ∈ ms ++ [⟨t, e, t'⟩], .asked side key ∈ m.before.shown m.event := by
      obtain ⟨m, hm, hy⟩ := h
      exact ⟨m, List.mem_append_left _ hm, hy⟩
    have new (h : t.shown e = [.asked side key]) :
        ∃ m ∈ ms ++ [⟨t, e, t'⟩], .asked side key ∈ m.before.shown m.event := by
      refine ⟨⟨t, e, t'⟩, List.mem_append_right _ List.mem_cons_self, ?_⟩
      rw [h]
      exact List.mem_cons_self
    rcases step.standing (sound_of_run run) h with ⟨h', -⟩ | ⟨h', -⟩ | ⟨p, hp, turn⟩
    · exact old (ih h' ha)
    · cases h'
    · cases turn with
      | lead hr => cases ha
      | ask hv =>
        obtain ⟨rfl, -⟩ := Prod.mk.inj (Option.some.inj ha)
        exact new (step.asked_first hp hv)
      | hold => exact old (ih hp ha)
      | fallBack ha' =>
        obtain ⟨rfl, -⟩ := Prod.mk.inj (Option.some.inj ha)
        exact new (step.asked_next hp ha')

/-- **A source that answers had been asked.** -/
theorem exists_asked_of_call? (run : Run after? (ofGroup (.create name bytes limit)) ms t)
    (h : t.call? e = some (side, key, outcome)) :
    ∃ m ∈ ms, .asked side key ∈ m.before.shown m.event := by
  obtain ⟨c, f, load, since, -, hc, ha⟩ := call?_eq_some_iff.mp h
  exact exists_asked run hc ha

/-- A peer is asked only if peers were registered and the key has an owner among them. -/
theorem peer_asked {peer : String} (h : .asked (.peer peer) key ∈ t.shown e) :
    ∃ c, e = .lookAgain c (some peer) ∧ t.group.hasPeers = true := by
  rcases asked_of_shown h with ⟨c, f, owner, rfl, hside, -⟩ | ⟨c, f, load, p, since, text, -, h, -⟩
  · unfold Group.firstSide at hside
    cases hp : t.group.hasPeers with
    | false => simp [hp] at hside
    | true =>
      cases owner with
      | none => simp [hp] at hside
      | some owner =>
        obtain rfl : peer = owner := by simpa [hp] using hside
        exact ⟨c, rfl, rfl⟩
  · cases h

/-! ## The answers of an event -/

theorem limit_of_mem (run : Run after? (ofGroup (.create name bytes limit)) ms t) (hm : m ∈ ms) :
    m.before.group.limit = limit := by
  have keep {t e u} (h : t.group.limit = limit) (he : after? t e = some u) :
      u.group.limit = limit := (step_of_after? he).limit.trans h
  exact run.invariant_before (P := fun t => t.group.limit = limit) rfl keep hm

/-- What is known of the answers that event `e` gives when `ms` has happened. -/
structure Provenance (limit : Option Nat) (ms : List (Moment Traffic Event)) (t : Traffic)
    (e : Event) : Prop where
  /-- A value is what a source answered when asked for this key. -/
  value : ∀ key value, .answered key (.ok value) ∈ t.shown e →
    ∃ m ∈ ms, ∃ side, m.before.call? m.event = some (side, key, .ok value)
  /-- A fault is what a source answered when asked for this key, or the limit of a load of it was
  over. -/
  fault : ∀ key fault, key ≠ "" → .answered key (.error fault) ∈ t.shown e →
    ∃ m ∈ ms, Yields m key (.error fault)
  /-- The limit is always that of the group. -/
  limited : ∀ m ∈ ms, m.before.group.limit = limit
  /-- A fault came about when the lookup it is an answer to had begun. -/
  fault_since : AwaitToAwait ms → ∀ key fault, key ≠ "" →
    .answered key (.error fault) ∈ t.shown e →
      ∃ c m, e.caller? = some c ∧ Yields m key (.error fault) ∧ Since ms key c m
  /-- A lookup without a key is refused at once, always in the same way. -/
  refused : t.shown (.look "") = [.answered "" (.error (.invalidKey "key is required"))] ∧
    ∀ outcome, .answered "" outcome ∈ t.shown e →
      outcome = .error (.invalidKey "key is required")
  /-- Nobody asks a source without a key. -/
  keyed : ∀ side, .asked side "" ∉ t.shown e
  /-- A source that answers had been asked for the key it answers for. -/
  called : ∀ side key outcome, t.call? e = some (side, key, outcome) →
    ∃ m ∈ ms, .asked side key ∈ m.before.shown m.event
  /-- A peer is asked only if it owns the key. -/
  picked : ∀ peer key, .asked (.peer peer) key ∈ t.shown e →
    ∃ c, e = .lookAgain c (some peer) ∧ t.group.hasPeers = true

/-- **The provenance of answers.** In every run, with whatever answers of sources and owners of
keys, callers that come and are dropped, limits, and entries evicted in between: a value answered
was given by a source for this very key, a fault answered was given by a source for this key or is
the limit of a load of it, no earlier than the lookup began, and a lookup without a key is refused
and asks nobody. -/
theorem provenance (run : Run after? (ofGroup (.create name bytes limit)) ms t) (e : Event) :
    Provenance limit ms t e where
  value key value h := by
    by_cases hk : key = ""
    · subst hk
      cases answered_empty (sound_of_run run) h
    · obtain ⟨m, hm, hy⟩ := exists_yields_of_answered run h hk
      exact ⟨m, hm, hy.exists_call⟩
  fault key fault hk h := exists_yields_of_answered run h hk
  limited m hm := limit_of_mem run hm
  fault_since turns key fault hk h := exists_since_of_answered run turns h hk
  refused := ⟨shown_look_empty, fun outcome h => answered_empty (sound_of_run run) h⟩
  keyed side h := by
    have sound := sound_of_run run
    rcases asked_of_shown h with ⟨c, f, owner, -, -, hc, -⟩ |
      ⟨c, f, load, peer, since, text, -, -, hc, -⟩
    · exact sound.key_ne hc rfl
    · exact sound.key_ne hc rfl
  called side key outcome h := exists_asked_of_call? run h
  picked peer key h := peer_asked h

/-- The loader keeps a leader waiting, somebody joins its flight, and then the loader fails. -/
def outage : List Event :=
  [.look "k", .join 0, .lookAgain 0 none, .hold 0, .look "k", .join 1,
    .receive 0 (.error (.loader "down")), .publish 0, .retire 0]

/-- The same, but that the loader does not answer before the limit is over. -/
def stall : List Event :=
  [.look "k", .join 0, .lookAgain 0 none, .hold 0, .look "k", .join 1, .tick 5, .expire 0,
    .publish 0, .retire 0]

/-- Whoever joined learns of the fault of the loader, or of the limit, and was there when it came
about. -/
theorem provenance_outage :
    (.answered "k" (.error (.loader "down")) ∈
        (trail after? (ofGroup (.create "g" 10 none)) outage).2.shown (.wake 1) ∧
      ∃ m, Yields m "k" (.error (.loader "down")) ∧
        Since (trail after? (ofGroup (.create "g" 10 none)) outage).1 "k" 1 m) ∧
    .answered "k" (.error (.timeout "loading k exceeded 5ms")) ∈
        (trail after? (ofGroup (.create "g" 10 (some 5))) stall).2.shown (.wake 1) ∧
      ∃ m, Yields m "k" (.error (.timeout "loading k exceeded 5ms")) ∧
        Since (trail after? (ofGroup (.create "g" 10 (some 5))) stall).1 "k" 1 m := by
  -- Both runs end with the second caller about to be woken, and it is told one thing.
  have learned {limit : Option Nat} {events : List Event} {fault : Fault}
      (turns : takesTurns (trail after? (ofGroup (.create "g" 10 limit)) events).1)
      (shown : (trail after? (ofGroup (.create "g" 10 limit)) events).2.shown (.wake 1) =
        [.answered "k" (.error fault)]) :
      .answered "k" (.error fault) ∈
          (trail after? (ofGroup (.create "g" 10 limit)) events).2.shown (.wake 1) ∧
        ∃ m, Yields m "k" (.error fault) ∧
          Since (trail after? (ofGroup (.create "g" 10 limit)) events).1 "k" 1 m := by
    have told : .answered "k" (.error fault) ∈
        (trail after? (ofGroup (.create "g" 10 limit)) events).2.shown (.wake 1) := by
      rw [shown]
      exact List.mem_cons_self
    obtain ⟨c, m, hc, hy, hs⟩ := (provenance (run_trail after? _ events) (.wake 1)).fault_since
      (awaitToAwait_iff.mpr turns) "k" fault (by decide) told
    obtain rfl := Option.some.inj hc
    exact ⟨told, m, hy, hs⟩
  constructor
  · apply learned
    · cbv
    · cbv
  · apply learned
    · cbv
    · cbv

end ReadThrough.Traffic
