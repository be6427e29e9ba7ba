import ReadThrough.Proofs.Flight.Members
import ReadThrough.Proofs.Group.Rest

/-!
# Loads that come to their limit

The limit of a load is counted from the moment when its leader first asks a source, and the leader
remembers this moment while it goes from a peer to the loader. When the limit is over and the source
asked last still keeps the leader waiting, the flight has its outcome, and everybody on it gets the
same. The leader never asks anybody again, so that what a source answers later goes nowhere. A load
that is taken over from a dropped leader is a flight of its own, with a start of its own.

## Main definitions

* `Traffic.Begins`, `Traffic.Starts`, `Traffic.Asks`: a flight begins, its limit is counted from
  here, and a source is asked
* `Traffic.Expires`, `Traffic.Abandons`: the limit of a load is over, or its leader is dropped
* `Traffic.Deadlined limit ms t`: what the limit does to loads

## Main results

* `Traffic.asked?_of_starts`: a leader remembers when it started
* `Traffic.deadlined_of_run`: what is true of limits in every order of steps
* `Traffic.load_deadline`: on a paused clock no load outlasts its limit
-/

namespace ReadThrough.Traffic

variable {t t' u : Traffic} {w : Surroundings} {c d f bytes L since : Nat} {key k name : String}
  {limit : Option Nat} {load : Load} {side : Side} {e : Event} {p q phase : Phase Outcome Load}
  {out : List Output} {outcome : Outcome} {ms : List (Moment Traffic Event)}
  {m s x : Moment Traffic Event}

/-! ## Moments of a load -/

/-- Caller `c` begins to lead flight `f` for `key`. -/
def Begins (m : Moment Traffic Event) (c : Nat) (key : String) (f : Nat) : Prop :=
  m.event = .join c ∧ m.after.gate.standing? c = some (key, .leading f .fresh)

/-- Leader `c` of flight `f` for `key` finds nothing and asks its first source. -/
def Starts (m : Moment Traffic Event) (c : Nat) (key : String) (f : Nat) : Prop :=
  (∃ owner, m.event = .lookAgain c owner) ∧
    m.before.gate.standing? c = some (key, .leading f .fresh) ∧
    m.before.group.store.find? key = none

/-- Leader `c` of flight `f` for `key` asks a source. -/
def Asks (m : Moment Traffic Event) (c : Nat) (key : String) (f : Nat) (side : Side) : Prop :=
  m.event.caller? = some c ∧ (∃ load, m.before.gate.standing? c = some (key, .leading f load)) ∧
    .asked side key ∈ m.before.shown m.event

/-- A source answers leader `c`. -/
def Answers (m : Moment Traffic Event) (c : Nat) : Prop := ∃ answer, m.event = .receive c answer

/-- The limit of flight `f` for `key`, led by `c`, is over. -/
def Expires (m : Moment Traffic Event) (c : Nat) (key : String) (f : Nat) : Prop :=
  m.event = .expire c ∧
    ∃ side since, m.before.gate.standing? c = some (key, .leading f (.awaiting side since))

/-- Leader `c` of flight `f` for `key` is dropped at work. -/
def Abandons (m : Moment Traffic Event) (c : Nat) (key : String) (f : Nat) : Prop :=
  m.event = .drop c ∧ ∃ load, m.before.gate.standing? c = some (key, .leading f load)

theorem Starts.leads (h : Starts m c key f) : m.before.gate.Leads c key f := ⟨_, h.2.1, rfl⟩

/-! ## Time and limits -/

/-- Time does not run backwards. -/
theorem Step.now_le (h : Step t e t' out) : t.now ≤ t'.now := by
  cases h with
  | tick => exact Nat.le_add_right _ _
  | _ => exact Nat.le_refl _

/-- Nothing takes time but time itself. -/
theorem Step.now_eq (h : Step t e t' out) (hne : ∀ n, e ≠ .tick n) : t'.now = t.now := by
  cases h with
  | tick => exact absurd rfl (hne _)
  | _ => rfl

theorem now_le_of_run (run : Run after? t ms u) : t.now ≤ u.now :=
  run.invariant (P := fun u => t.now ≤ u.now) (Nat.le_refl _)
    fun hle he => Nat.le_trans hle (step_of_after? he).now_le

/-- Later moments happen later. -/
theorem now_le_of_mem (run : Run after? t ms u) (hm : m ∈ ms) : t.now ≤ m.before.now := by
  obtain ⟨pre, post, rfl⟩ := List.append_of_mem hm
  exact now_le_of_run run.at_moment.1

theorem limit_of_run (run : Run after? (ofGroup (.create name bytes limit)) ms t) :
    t.group.limit = limit :=
  run.invariant (P := fun t => t.group.limit = limit) rfl
    fun h he => (step_of_after? he).limit.trans h

/-! ## The start of a load -/

/-- A leader that has asked a source started to ask when it says it did. -/
theorem exists_starts (run : Run after? (ofGroup (.create name bytes limit)) ms t)
    (h : t.gate.standing? c = some (key, .leading f load)) (ha : load.asked? = some (side, since)) :
    ∃ s ∈ ms, Starts s c key f ∧ s.before.now = since := by
  induction run generalizing load side with
  | nil => simp [ofGroup] at h
  | @snoc ms t t' e run he ih =>
    have old {load : Load} {side : Side} (h : t.gate.standing? c = some (key, .leading f load))
        (ha : load.asked? = some (side, since)) :
        ∃ s ∈ ms ++ [⟨t, e, t'⟩], Starts s c key f ∧ s.before.now = since := by
      obtain ⟨s, hs, hstart⟩ := ih h ha
      exact ⟨s, List.mem_append_left _ hs, hstart⟩
    rcases (step_of_after? he).standing (sound_of_run run) h with ⟨h', -⟩ | ⟨h', -⟩ | ⟨p, hp, turn⟩
    · exact old h' ha
    · cases h'
    · cases turn with
      | lead hr => cases ha
      | ask hv =>
        obtain ⟨-, rfl⟩ := Prod.mk.inj (Option.some.inj ha)
        exact ⟨_, List.mem_concat_self, ⟨⟨_, rfl⟩, hp, hv⟩, rfl⟩
      | hold => exact old hp ha
      | fallBack ha' =>
        obtain ⟨-, rfl⟩ := Prod.mk.inj (Option.some.inj ha)
        exact old hp ha'

/-- What leader `c` of flight `f` keeps in mind from some time on: that it started at `since`. -/
def Recalls (t : Traffic) (c f since : Nat) : Prop :=
  f < t.gate.flights.size ∧ ∀ key load, t.gate.standing? c = some (key, .leading f load) →
    ∃ side, load.asked? = some (side, since)

theorem Recalls.step (h : t.Recalls c f since) (sound : t.Sound) (hs : Step t e t' out) :
    t'.Recalls c f since := by
  obtain ⟨hlt, hrecalls⟩ := h
  refine ⟨Nat.lt_of_lt_of_le hlt hs.flights_size_le, ?_⟩
  intro key load hc
  rcases hs.standing sound hc with ⟨hc', -⟩ | ⟨h, -⟩ | ⟨p, hp, turn⟩
  · exact hrecalls key load hc'
  · cases h
  · cases turn with
    | lead hr =>
      -- A new flight is not one of those there are.
      exact absurd hlt (Nat.lt_irrefl _)
    | ask hv =>
      obtain ⟨side, hfresh⟩ := hrecalls key _ hp
      cases hfresh
    | hold =>
      obtain ⟨side, hasked⟩ := hrecalls key _ hp
      exact ⟨side, hasked⟩
    | fallBack ha =>
      obtain ⟨side, hasked⟩ := hrecalls key _ hp
      rw [ha] at hasked
      obtain ⟨-, rfl⟩ := Prod.mk.inj (Option.some.inj hasked)
      exact ⟨_, rfl⟩

theorem Starts.recalls (h : Starts m c key f) (sound : m.before.Sound)
    (step : Step m.before m.event m.after out) : m.after.Recalls c f m.before.now := by
  obtain ⟨⟨owner, he⟩, hc, hv⟩ := h
  have hlt := sound.gate.flight_lt ⟨_, hc, rfl⟩
  refine ⟨Nat.lt_of_lt_of_le hlt step.flights_size_le, ?_⟩
  intro k load hk
  rcases step.standing sound hk with ⟨-, hne⟩ | ⟨h, -⟩ | ⟨p, hp, turn⟩
  · rw [he] at hne
    exact absurd rfl hne
  · cases h
  · rw [he] at turn
    cases turn with
    | ask hv' => exact ⟨_, rfl⟩

/-- **A leader remembers when it started.** -/
theorem asked?_of_starts (run : Run after? (ofGroup (.create name bytes limit)) ms t) (hs : s ∈ ms)
    (hstart : Starts s c key f) (h : t.gate.standing? c = some (k, .leading f load)) :
    ∃ side, load.asked? = some (side, s.before.now) := by
  obtain ⟨pre, post, rfl⟩ := List.append_of_mem hs
  obtain ⟨before, he, rest⟩ := run.at_moment
  have sound := sound_of_run before
  have step := step_of_after? he
  have hrecalls : t.Recalls c f s.before.now := by
    apply kept_of_run rest (sound.step step) (hstart.recalls sound step)
    intro t e t' out sound hs h
    exact h.step sound hs
  exact hrecalls.2 k load h

/-- **The source asked last has not answered.** -/
theorem exists_unanswered (run : Run after? (ofGroup (.create name bytes limit)) ms t)
    (h : t.gate.standing? c = some (key, .leading f load)) (ha : load.asked? = some (side, since)) :
    ∃ pre q post, ms = pre ++ q :: post ∧ Asks q c key f side ∧ ∀ x ∈ post, ¬ Answers x c := by
  induction run generalizing load side with
  | nil => simp [ofGroup] at h
  | @snoc ms t t' e run he ih =>
    have step := step_of_after? he
    have new {load : Load} (hc : e.caller? = some c)
        (hp : t.gate.standing? c = some (key, .leading f load))
        (hshown : t.shown e = [.asked side key]) :
        ∃ pre q post, ms ++ [⟨t, e, t'⟩] = pre ++ q :: post ∧ Asks q c key f side ∧
          ∀ x ∈ post, ¬ Answers x c := by
      refine ⟨ms, ⟨t, e, t'⟩, [], rfl, ⟨hc, ⟨load, hp⟩, ?_⟩, fun x hx => absurd hx List.not_mem_nil⟩
      rw [hshown]
      exact List.mem_cons_self
    have old {load : Load} (hp : t.gate.standing? c = some (key, .leading f load))
        (ha : load.asked? = some (side, since)) (hno : ∀ answer, e ≠ .receive c answer) :
        ∃ pre q post, ms ++ [⟨t, e, t'⟩] = pre ++ q :: post ∧ Asks q c key f side ∧
          ∀ x ∈ post, ¬ Answers x c := by
      obtain ⟨pre, q, post, rfl, hq, hpost⟩ := ih hp ha
      refine ⟨pre, q, post ++ [⟨t, e, t'⟩], by simp, hq, ?_⟩
      intro x hx
      rcases List.mem_append.mp hx with hx | hx
      · exact hpost x hx
      · obtain rfl := List.mem_singleton.mp hx
        rintro ⟨answer, hanswer⟩
        exact hno answer hanswer
    rcases step.standing (sound_of_run run) h with ⟨h', hne⟩ | ⟨h', -⟩ | ⟨p, hp, turn⟩
    · refine old h' ha ?_
      rintro answer rfl
      exact hne rfl
    · cases h'
    · cases turn with
      | lead hr => cases ha
      | ask hv =>
        obtain ⟨rfl, -⟩ := Prod.mk.inj (Option.some.inj ha)
        exact new rfl hp (step.asked_first hp hv)
      | hold => exact old hp ha fun _ => Event.noConfusion
      | fallBack ha' =>
        obtain ⟨rfl, -⟩ := Prod.mk.inj (Option.some.inj ha)
        exact new rfl hp (step.asked_next hp ha')

/-! ## When the limit is over -/

/-- A load comes to its limit no sooner than the limit is over, and this is its outcome. -/
theorem Expires.settles (h : Expires m c key f) (step : Step m.before m.event m.after out)
    (hl : m.before.group.limit = some L) :
    (∃ side since, m.before.gate.standing? c = some (key, .leading f (.awaiting side since)) ∧
        since + L ≤ m.before.now) ∧
      m.after.gate.standing? c = some (key, .settled f (Group.overdue key L)) := by
  obtain ⟨t, e, t'⟩ := m
  obtain ⟨rfl, side, since, hc⟩ := h
  dsimp only at step hl hc ⊢
  cases step with
  | expire hc' hl' ho =>
    obtain ⟨rfl, hp⟩ := Gate.standing?_inj hc hc'
    obtain ⟨rfl, hload⟩ := Phase.leading.inj hp
    obtain ⟨rfl, rfl⟩ := Load.awaiting.inj hload
    obtain rfl := Option.some.inj (hl.symm.trans hl')
    constructor
    · refine ⟨side, since, hc, ?_⟩
      rw [isOver, hl', Option.any_some] at ho
      exact of_decide_eq_true ho
    · exact (Gate.standing?_setPhase_of hc).trans (if_pos rfl)

/-- The caller's work is over. -/
def isSpent : Phase Outcome Load → Bool
  | .settled _ _ | .published _ _ | .finished _ => true
  | _ => false

/-- Caller `c` is there, and its work is over. -/
def Spent (t : Traffic) (c : Nat) : Prop :=
  ∃ key p, t.gate.standing? c = some (key, p) ∧ isSpent p = true

theorem Spent.step (h : t.Spent c) (sound : t.Sound) (hs : Step t e t' out) : t'.Spent c := by
  obtain ⟨key, p, hc, hp⟩ := h
  rcases hs.standing_after sound hc with ⟨hc', -⟩ | ⟨q, hc', turn⟩
  · exact ⟨key, p, hc', hp⟩
  · cases turn with
    | publish => exact ⟨key, _, hc', rfl⟩
    | retire => exact ⟨key, _, hc', rfl⟩
    | _ => cases hp

theorem Spent.not_leading (h : t.Spent c) :
    t.gate.standing? c ≠ some (key, .leading f load) := by
  obtain ⟨k, p, hc, hp⟩ := h
  intro hlead
  obtain ⟨-, rfl⟩ := Gate.standing?_inj hc hlead
  cases hp

/-- Whose work is over is not told anything by sources any more. -/
theorem Spent.step?_receive (h : t.Spent c) (answer : Outcome) :
    t.step? (.receive c answer) = none := by
  have hno : t.leading? c = none := by
    apply Option.eq_none_iff_forall_ne_some.mpr
    rintro ⟨key, load⟩ hlead
    obtain ⟨f, hleads⟩ := leading?_eq_some_iff.mp hlead
    exact h.not_leading hleads
  show t.receive? c answer = none
  unfold receive?
  rw [hno]
  rfl

theorem spent_of_run (run : Run after? t ms u) (sound : t.Sound) (h : t.Spent c) :
    u.Spent c := by
  apply kept_of_run (P := fun u => u.Spent c) run sound h
  intro t e t' out sound hs h
  exact h.step sound hs

/-- **What a source answers too late goes nowhere.** -/
theorem not_answers_of_run (run : Run after? t ms u) (sound : t.Sound) (h : t.Spent c) :
    ∀ x ∈ ms, ¬ Answers x c := by
  rintro x hx ⟨answer, hanswer⟩
  obtain ⟨pre, post, rfl⟩ := List.append_of_mem hx
  obtain ⟨before, he, -⟩ := run.at_moment
  have hnone := (spent_of_run before sound h).step?_receive answer
  rw [hanswer, after?, hnone] at he
  cases he

/-! ## Sharing an outcome -/

theorem decided_of_run (run : Run after? t ms u) (sound : t.Sound)
    (h : t.gate.Decided key f outcome) : u.gate.Decided key f outcome := by
  apply gate_kept_of_run (P := fun g => g.Decided key f outcome) run sound h
  intro g ge g' sound hs h
  exact h.step sound hs

theorem whereabouts_of_run (run : Run after? t ms u) (sound : t.Sound)
    (hd : t.gate.standing? d = some (key, p)) (h : t.gate.Whereabouts key f p) :
    ∃ q, u.gate.standing? d = some (key, q) ∧ u.gate.Whereabouts key f q := by
  apply gate_kept_of_run
    (P := fun g => ∃ q, g.standing? d = some (key, q) ∧ g.Whereabouts key f q) run sound ⟨p, hd, h⟩
  rintro g ge g' sound hs ⟨p, hd, h⟩
  exact h.step sound hs hd

theorem exists_flight_of_run (run : Run after? t ms u) (sound : t.Sound)
    (hd : t.gate.standing? d = some (key, p)) (hf : p.flight? = some f) :
    ∃ signal, u.gate.flights[f]? = some ⟨key, signal⟩ := by
  apply gate_kept_of_run (P := fun g => ∃ signal, g.flights[f]? = some ⟨key, signal⟩) run sound
    (sound.gate.exists_flight hd hf)
  rintro g ge g' - hs ⟨signal, hflight⟩
  exact hs.exists_flight hflight

/-- At rest nobody is on a flight that has its outcome. -/
theorem not_aboard_of_rest (sound : t.Sound) (rest : t.advance? w = none)
    (hdecided : t.gate.Decided key f outcome) (hd : t.gate.standing? d = some (k, p)) :
    p.flight? ≠ some f := by
  -- A leader with an outcome would publish it, so everybody can learn it.
  have hsent : t.gate.flights[f]? = some ⟨key, .sent outcome⟩ := by
    rcases hdecided with ⟨c, hc⟩ | hsent
    · cases (rest_iff_idle sound).mp rest c key _ hc
    · exact hsent
  intro hf
  cases (rest_iff_idle sound).mp rest d k p hd with
  | held hno =>
    obtain rfl := Option.some.inj hf
    cases (Gate.flights_inj hsent (sound.gate.flight_of_signal hd rfl rfl)).2
  | waiting hs =>
    obtain rfl := Option.some.inj hf
    cases (Gate.flights_inj hsent (sound.gate.flight_of_heard hd hs)).2
  | finished => cases hf
  | dropped => cases hf

/-! ## Loads that are taken over -/

/-- The key has no flights any more but those from number `n` on. -/
def Anew (t : Traffic) (key : String) (n : Nat) : Prop :=
  n ≤ t.gate.flights.size ∧ ∀ c f, t.gate.Leads c key f → n ≤ f

theorem Anew.step {n : Nat} (h : t.Anew key n) (sound : t.Sound) (hs : Step t e t' out) :
    t'.Anew key n := by
  obtain ⟨hle, hnew⟩ := h
  refine ⟨Nat.le_trans hle hs.flights_size_le, ?_⟩
  rintro c f ⟨q, hq, hl⟩
  rcases hs.standing sound hq with ⟨hq', -⟩ | ⟨rfl, -⟩ | ⟨p, hp, turn⟩
  · exact hnew c f ⟨q, hq', hl⟩
  · cases hl
  · rcases turn.led? hl with hled | ⟨rfl, rfl⟩
    · exact hnew c f ⟨p, hp, hled⟩
    · cases turn with
      | board hr => cases hl
      | lead hr =>
        obtain rfl := Option.some.inj hl
        exact hle

/-- When a leader is dropped its key has no flight. -/
theorem Abandons.anew (h : Abandons m c key f) (sound : m.before.Sound)
    (step : Step m.before m.event m.after out) :
    m.after.Anew key m.before.gate.flights.size := by
  obtain ⟨he, load, hc⟩ := h
  have hnone := (Fails.abandoned he hc).lookup_eq_none sound step
  refine ⟨step.flights_size_le, ?_⟩
  intro d f' hd
  exact absurd hd ((sound.step step).gate.lookup_eq_none_iff.mp hnone d f')

/-- A leader starts no sooner than its flight begins. -/
theorem mem_of_starts {pre post : List (Moment Traffic Event)}
    (run : Run after? (ofGroup (.create name bytes limit)) (pre ++ m :: post) t)
    (hs : s ∈ pre ++ m :: post) (hstart : Starts s c key f)
    (hnew : m.before.gate.flights.size ≤ f) : s ∈ post := by
  obtain ⟨before, -, -⟩ := run.at_moment
  rcases List.mem_append.mp hs with hs | hs
  · obtain ⟨pre₁, pre₂, rfl⟩ := List.append_of_mem hs
    obtain ⟨before₁, he₁, rest₁⟩ := before.at_moment
    have hlt := (sound_of_run before₁).gate.flight_lt hstart.leads
    have hsize₁ := (step_of_after? he₁).flights_size_le
    have hsize₂ := flights_size_le_of_run rest₁
    omega
  · rcases List.mem_cons.mp hs with rfl | hs
    · exact absurd ((sound_of_run before).gate.flight_lt hstart.leads) (Nat.not_lt.mpr hnew)
    · exact hs

/-- **A load that is taken over starts anew.** -/
theorem starts_of_abandons {pre post : List (Moment Traffic Event)} {f' : Nat}
    (run : Run after? (ofGroup (.create name bytes limit)) (pre ++ m :: post) t)
    (h : Abandons m c key f) (hd : t.gate.Leads d key f') :
    f < f' ∧ ∀ s ∈ pre ++ m :: post, Starts s d key f' →
      s ∈ post ∧ m.before.now ≤ s.before.now := by
  obtain ⟨before, he, rest⟩ := run.at_moment
  have sound := sound_of_run before
  have step := step_of_after? he
  have hanew : t.Anew key m.before.gate.flights.size := by
    apply kept_of_run (P := fun t => t.Anew key m.before.gate.flights.size) rest (sound.step step)
      (h.anew sound step)
    intro t e t' out sound hs h
    exact h.step sound hs
  have hnew := hanew.2 d f' hd
  obtain ⟨hdrop, load, hc⟩ := h
  refine ⟨Nat.lt_of_lt_of_le (sound.gate.flight_lt ⟨_, hc, rfl⟩) hnew, ?_⟩
  intro s hs hstart
  have hpost := mem_of_starts run hs hstart hnew
  exact ⟨hpost, Nat.le_trans step.now_le (now_le_of_mem rest hpost)⟩

/-- As long as a leader has not looked again, a paused clock has not moved. -/
theorem now_eq_of_fresh (run : Run after? t ms u) (sound : t.Sound) (paused : Paused ms)
    (hlt : f < t.gate.flights.size) (hc : u.gate.standing? c = some (key, .leading f .fresh)) :
    u.now = t.now := by
  induction run with
  | nil => rfl
  | @snoc ms t₁ t₂ e run he ih =>
    have step := step_of_after? he
    rcases step.standing (sound.of_run run) hc with ⟨hc', -⟩ | ⟨h, -⟩ | ⟨p, hp, turn⟩
    · have hnow := ih (fun m hm => paused m (List.mem_append_left _ hm)) hc'
      rw [← hnow]
      apply step.now_eq
      rintro n rfl
      -- The leader is in the middle of its turn.
      cases paused _ List.mem_concat_self n rfl c key _ hc'
    · cases h
    · cases turn with
      | lead hr =>
        exact absurd hlt (Nat.not_lt.mpr (flights_size_le_of_run run))

/-- **The limit of a load is counted from the beginning of its flight**, if the clock is paused. -/
theorem now_eq_of_begins {j : Moment Traffic Event}
    (run : Run after? (ofGroup (.create name bytes limit)) ms t) (paused : Paused ms) (hj : j ∈ ms)
    (hs : s ∈ ms) (hbegin : Begins j c key f) (hstart : Starts s c key f) :
    j.before.now = s.before.now := by
  obtain ⟨pre, post, rfl⟩ := List.append_of_mem hj
  obtain ⟨before, he, rest⟩ := run.at_moment
  have sound := sound_of_run before
  have step := step_of_after? he
  obtain ⟨hjoin, hc⟩ := hbegin
  have hsize : f = j.before.gate.flights.size := by
    rcases step.standing sound hc with ⟨-, hne⟩ | ⟨h, -⟩ | ⟨p, hp, turn⟩
    · rw [hjoin] at hne
      exact absurd rfl hne
    · cases h
    · rw [hjoin] at turn
      cases turn with
      | lead hr => rfl
  obtain ⟨mid, post', rfl⟩ := List.append_of_mem (mem_of_starts run hs hstart hsize.ge)
  have hlt : f < j.after.gate.flights.size := (sound.step step).gate.flight_lt ⟨_, hc, rfl⟩
  have hmid : Paused mid := fun x hx => paused x (by simp [hx])
  rw [now_eq_of_fresh rest.at_moment.1 (sound.step step) hmid hlt hstart.2.1]
  exact (step.now_eq (by simp [hjoin])).symm

/-! ## The limit -/

/-- What the limit `L` does to loads, when the moments `ms` have led to `t`. -/
structure Deadlined (L : Nat) (ms : List (Moment Traffic Event)) (t : Traffic) : Prop where
  /-- At rest every load that goes on has started, and its limit is not over. -/
  bounded : ∀ w, t.advance? w = none → ∀ c key f, t.gate.Leads c key f →
    (∃ s ∈ ms, Starts s c key f) ∧ ∀ s ∈ ms, Starts s c key f → t.now < s.before.now + L
  /-- Everybody who was ever on a flight that came to its limit has the same fault, unless it was
  dropped; only while callers still move it may still be on the flight. -/
  shared : ∀ m ∈ ms, ∀ c key f, Expires m c key f → ∀ x ∈ ms, ∀ d k p,
    x.after.gate.standing? d = some (k, p) → p.flight? = some f →
      ∃ q, t.gate.standing? d = some (key, q) ∧
        (q = .finished
            (.error (.timeout ("loading " ++ key ++ " exceeded " ++ Text.Duration.describe L))) ∨
          q = .dropped ∨ q.flight? = some f ∧ ∀ w, t.advance? w ≠ none)
  /-- No load comes to its limit before the limit is over. -/
  not_early : ∀ m ∈ ms, ∀ c key f, Expires m c key f →
    (∃ s ∈ ms, Starts s c key f) ∧ ∀ s ∈ ms, Starts s c key f → s.before.now + L ≤ m.before.now
  /-- A load whose sources answer in time, each that is asked, does not come to its limit. -/
  in_time : ∀ s ∈ ms, ∀ c key f, Starts s c key f →
    (∀ pre q post side, ms = pre ++ q :: post → Asks q c key f side →
      ∃ x ∈ post, Answers x c ∧ x.before.now < s.before.now + L) →
    ∀ m ∈ ms, ¬ Expires m c key f
  /-- What a source answers after the load has come to its limit changes nothing. -/
  late : ∀ pre m post, ms = pre ++ m :: post → ∀ c key f, Expires m c key f →
    (∀ x ∈ post, ¬ Answers x c) ∧ ∀ answer, t.step? (.receive c answer) = none
  /-- A load that is taken over from a dropped leader has a flight and a start of its own, no sooner
  than the leader was dropped. -/
  anew : ∀ pre m post, ms = pre ++ m :: post → ∀ c key f, Abandons m c key f →
    ∀ d f', t.gate.Leads d key f' → f < f' ∧ ∀ s ∈ ms, Starts s d key f' →
      s ∈ post ∧ m.before.now ≤ s.before.now
  /-- On a paused clock a load starts when its flight begins. -/
  prompt : Paused ms → ∀ j ∈ ms, ∀ s ∈ ms, ∀ c key f, Begins j c key f → Starts s c key f →
    j.before.now = s.before.now

/-- A run around the moment when a load comes to its limit. -/
theorem around_of_expires {pre post : List (Moment Traffic Event)}
    (run : Run after? (ofGroup (.create name bytes (some L))) (pre ++ m :: post) t)
    (h : Expires m c key f) :
    Run after? (ofGroup (.create name bytes (some L))) pre m.before ∧ Run after? m.after post t ∧
      m.after.Sound ∧
      (∃ side since, m.before.gate.standing? c = some (key, .leading f (.awaiting side since)) ∧
        since + L ≤ m.before.now) ∧
      m.after.gate.standing? c = some (key, .settled f (Group.overdue key L)) := by
  obtain ⟨before, he, rest⟩ := run.at_moment
  have step := step_of_after? he
  exact ⟨before, rest, (sound_of_run before).step step, h.settles step (limit_of_run before)⟩

section Limit

variable (run : Run after? (ofGroup (.create name bytes (some L))) ms t)

include run

/-- At rest no load goes on whose limit is over. -/
theorem starts_of_rest (rest : t.advance? w = none) (h : t.gate.Leads c key f) :
    (∃ s ∈ ms, Starts s c key f) ∧ ∀ s ∈ ms, Starts s c key f → t.now < s.before.now + L := by
  have sound := sound_of_run run
  obtain ⟨p, hc, hl⟩ := h
  cases (rest_iff_idle sound).mp rest c key p hc with
  | @held f' since side hno =>
    obtain rfl := Option.some.inj hl
    constructor
    · obtain ⟨s, hs, hstart, -⟩ := exists_starts run hc rfl
      exact ⟨s, hs, hstart⟩
    · intro s hs hstart
      obtain ⟨side', hasked⟩ := asked?_of_starts run hs hstart hc
      obtain ⟨-, rfl⟩ := Prod.mk.inj (Option.some.inj hasked)
      rw [isOver, limit_of_run run, Option.any_some] at hno
      exact Nat.not_le.mp (of_decide_eq_false hno)
  | waiting hs => cases hl
  | finished => cases hl
  | dropped => cases hl

/-- A flight that has come to its limit has its outcome. -/
theorem decided_of_expires (hm : m ∈ ms) (h : Expires m c key f) :
    t.gate.Decided key f (Group.overdue key L) := by
  obtain ⟨pre, post, rfl⟩ := List.append_of_mem hm
  obtain ⟨-, rest, sound, -, hafter⟩ := around_of_expires run h
  exact decided_of_run rest sound (.inl ⟨c, hafter⟩)

/-- **Everybody on a flight that comes to its limit has the same fault.** -/
theorem shares_of_expires (hm : m ∈ ms) (h : Expires m c key f) (hx : x ∈ ms)
    (hd : x.after.gate.standing? d = some (k, p)) (hf : p.flight? = some f) :
    ∃ q, t.gate.standing? d = some (key, q) ∧
      (q = .finished (Group.overdue key L) ∨ q = .dropped ∨
        q.flight? = some f ∧ ∀ w, t.advance? w ≠ none) := by
  have sound := sound_of_run run
  have hdecided := decided_of_expires run hm h
  obtain ⟨pre, post, rfl⟩ := List.append_of_mem hx
  obtain ⟨before, he, rest⟩ := run.at_moment
  have soundx := (sound_of_run before).step (step_of_after? he)
  -- A flight is for one key, that of its leader and of everybody who was ever on it.
  obtain ⟨signal, hflight⟩ := exists_flight_of_run rest soundx hd hf
  obtain rfl : k = key := by
    rcases hdecided.flight sound.gate with hflight' | hflight'
    · exact (Gate.flights_inj hflight hflight').1
    · exact (Gate.flights_inj hflight hflight').1
  obtain ⟨q, hq, hwhere⟩ := whereabouts_of_run rest soundx hd (.aboard hf)
  refine ⟨q, hq, ?_⟩
  rcases hwhere.of_decided sound.gate hdecided with haboard | hdropped | hfinished
  · exact .inr (.inr ⟨haboard, fun w rest => not_aboard_of_rest sound rest hdecided hq haboard⟩)
  · exact .inr (.inl hdropped)
  · exact .inl hfinished

/-- A load comes to its limit when this is over, and not before. -/
theorem starts_of_expires (hm : m ∈ ms) (h : Expires m c key f) :
    (∃ s ∈ ms, Starts s c key f) ∧
      ∀ s ∈ ms, Starts s c key f → s.before.now + L ≤ m.before.now := by
  obtain ⟨pre, post, rfl⟩ := List.append_of_mem hm
  obtain ⟨before, rest, sound, ⟨side, since, hc, hover⟩, hafter⟩ := around_of_expires run h
  have hspent : m.after.Spent c := ⟨key, _, hafter, rfl⟩
  constructor
  · obtain ⟨s, hs, hstart, -⟩ := exists_starts before hc rfl
    exact ⟨s, List.mem_append_left _ hs, hstart⟩
  · intro s hs hstart
    rcases List.mem_append.mp hs with hs | hs
    · obtain ⟨side', hasked⟩ := asked?_of_starts before hs hstart hc
      obtain ⟨-, rfl⟩ := Prod.mk.inj (Option.some.inj hasked)
      exact hover
    · rcases List.mem_cons.mp hs with rfl | hs
      · obtain ⟨⟨owner, hlook⟩, -⟩ := hstart
        rw [h.1] at hlook
        cases hlook
      · -- The work of the leader is over by then.
        obtain ⟨mid, post', rfl⟩ := List.append_of_mem hs
        have spent := spent_of_run rest.at_moment.1 sound hspent
        exact (spent.not_leading hstart.2.1).elim

/-- A load whose sources all answer in time does not come to its limit. -/
theorem not_expires_of_answers (hs : s ∈ ms) (hstart : Starts s c key f)
    (answers : ∀ pre q post side, ms = pre ++ q :: post → Asks q c key f side →
      ∃ x ∈ post, Answers x c ∧ x.before.now < s.before.now + L)
    (hm : m ∈ ms) : ¬ Expires m c key f := by
  intro h
  have hover := (starts_of_expires run hm h).2 s hs hstart
  obtain ⟨pre, post, rfl⟩ := List.append_of_mem hm
  obtain ⟨before, rest, sound, ⟨side, since, hc, -⟩, hafter⟩ := around_of_expires run h
  have hspent : m.after.Spent c := ⟨key, _, hafter, rfl⟩
  -- The source asked last would have to answer while the leader waits for it, and does not.
  obtain ⟨pre, q, mid, rfl, hasks, hmid⟩ := exists_unanswered before hc rfl
  obtain ⟨x, hx, hanswers, hnow⟩ := answers pre q (mid ++ m :: post) side (by simp) hasks
  rcases List.mem_append.mp hx with hx | hx
  · exact hmid x hx hanswers
  · rcases List.mem_cons.mp hx with rfl | hx
    · exact absurd hnow (Nat.not_lt.mpr hover)
    · exact not_answers_of_run rest sound hspent x hx hanswers

/-- What a source answers after the load has come to its limit changes nothing. -/
theorem step?_receive_of_expires {pre post : List (Moment Traffic Event)}
    (hms : ms = pre ++ m :: post) (h : Expires m c key f) :
    (∀ x ∈ post, ¬ Answers x c) ∧ ∀ answer, t.step? (.receive c answer) = none := by
  subst hms
  obtain ⟨-, rest, sound, -, hafter⟩ := around_of_expires run h
  have hspent : m.after.Spent c := ⟨key, _, hafter, rfl⟩
  exact ⟨not_answers_of_run rest sound hspent, (spent_of_run rest sound hspent).step?_receive⟩

/-- What is true of the limit in every order of steps. -/
theorem deadlined_of_run : Deadlined L ms t where
  bounded w rest c key f hl := starts_of_rest run rest hl
  shared m hm c key f h x hx d k p hd hf := shares_of_expires run hm h hx hd hf
  not_early m hm c key f h := starts_of_expires run hm h
  in_time s hs c key f hstart answers m hm := not_expires_of_answers run hs hstart answers hm
  late pre m post hms c key f h := step?_receive_of_expires run hms h
  anew pre m post hms c key f h d f' hd := by
    subst hms
    exact starts_of_abandons run h hd
  prompt paused j hj s hs c key f hbegin hstart := now_eq_of_begins run paused hj hs hbegin hstart

end Limit

/-- **Limits of loads.** In every order of steps the limit bounds the loads, is shared by all on a
flight, strikes no source that answers in time, and shuts out what comes late; a load that is taken
over is bounded anew. On a paused clock, whatever callers begin, sources answer and are dropped, the
steps come to rest after every event, so that no load is seen outlasting its limit. -/
theorem load_deadline (name : String) (bytes L : Nat) :
    (∀ ms t, Run after? (ofGroup (.create name bytes (some L))) ms t → Deadlined L ms t) ∧
      ∀ xs t, Run turn? (ofGroup (.create name bytes (some L))) xs t →
        (∀ w, t.advance? w = none) ∧
          ∃ ms, Run after? (ofGroup (.create name bytes (some L))) ms t ∧ Paused ms ∧
            ∀ x ∈ xs, ∃ m ∈ ms, m.before = x.before ∧ m.event = x.event.2 :=
  ⟨fun _ _ run => deadlined_of_run run, fun _ _ run => paused_of_turns run⟩

/-- The loader never answers. Three milliseconds after the first caller the second comes and waits,
the first is dropped, the third waits for the second, and five milliseconds pass. -/
def handedOver : List Event :=
  [.look "k", .join 0, .lookAgain 0 none, .hold 0, .tick 3, .look "k", .join 1, .drop 0, .wake 1,
    .join 1, .lookAgain 1 none, .hold 1, .look "k", .join 2, .tick 5, .expire 1, .publish 1,
    .wake 2, .retire 1]

theorem load_deadline_takeover :
    (trail after? (ofGroup (.create "g" 10 (some 5))) handedOver).2.now = 8 ∧
      (∀ c ∈ [1, 2],
        (trail after? (ofGroup (.create "g" 10 (some 5))) handedOver).2.gate.standing? c =
          some ("k", .finished (.error (.timeout "loading k exceeded 5ms")))) ∧
      Deadlined 5 (trail after? (ofGroup (.create "g" 10 (some 5))) handedOver).1
        (trail after? (ofGroup (.create "g" 10 (some 5))) handedOver).2 ∧
      ∀ w v, (trail turn? (ofGroup (.create "g" 10 (some 5)))
        [(w, .look "k"), (w, .tick 3), (w, .drop 0), (w, .tick 5)]).2.advance? v = none := by
  obtain ⟨deadlined, turns⟩ := load_deadline "g" 10 5
  have now : (trail after? (ofGroup (.create "g" 10 (some 5))) handedOver).2.now = 8 := by cbv
  have second : (trail after? (ofGroup (.create "g" 10 (some 5))) handedOver).2.gate.standing? 1 =
      some ("k", .finished (.error (.timeout "loading k exceeded 5ms"))) := by cbv
  have third : (trail after? (ofGroup (.create "g" 10 (some 5))) handedOver).2.gate.standing? 2 =
      some ("k", .finished (.error (.timeout "loading k exceeded 5ms"))) := by cbv
  refine ⟨now, ?_, deadlined _ _ (run_trail after? _ handedOver), ?_⟩
  · simp [second, third]
  · intro w v
    exact (turns _ _ (run_trail turn? _ _)).1 v

end ReadThrough.Traffic
