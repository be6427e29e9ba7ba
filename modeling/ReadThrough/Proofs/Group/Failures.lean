import ReadThrough.Proofs.Flight.SingleFlight
import ReadThrough.Proofs.Group.Provenance

/-!
# Loads that fail

A load stores its value as the last thing it does. So a load that ends in a fault, because a source
failed or the limit was over, and a load whose leader is dropped, have only looked into the store,
and found nothing each time; such looks are counted, and change nothing else. In between other loads
may have stored what they like.

When a load has failed the record of its flight is gone. Whoever joins next for the key leads a
flight of its own, and asks a source if the key is still absent.

## Main definitions

* `Traffic.Belongs m c`: a step that caller `c` takes, or by which it comes
* `Traffic.Untouched m`: a step that leaves the entries of the store as they are
* `Traffic.LooksAgain t d key f`: leader `d` is about to look again, and asks a source if it has to
* `Traffic.Fails m c key f`: the load of flight `f` for `key`, led by `c`, ends without a value
* `Traffic.Traceless ms m c key f`: what is known of a load that has failed

## Main results

* `Traffic.untouched_of_run`: a caller without a value has left the entries as they were
* `Traffic.fresh_of_join`: whoever joins first when there is no record leads a flight of its own
* `Traffic.failed_load_traceless`: a load that fails leaves no trace
-/

namespace ReadThrough

/-! ## Callers and flights get more -/

namespace Gate

variable {α ω : Type} {g g' : Gate α ω}

/-- Nobody new comes but by coming. -/
theorem Step.callers_size {e : Event α ω} (hs : Step g e g') :
    g'.callers.size = g.callers.size ∨
      (∃ key work, e = .arrive key work) ∧ g'.callers.size = g.callers.size + 1 := by
  cases hs with
  | arrive key work => exact .inr ⟨⟨key, work, rfl⟩, Array.size_push ..⟩
  | _ => exact .inl (Array.size_modify ..)

end Gate

/-- The caller has a value, or will have one. -/
def Phase.hasValue : Phase Outcome Load → Bool
  | .settled _ outcome | .published _ outcome | .finished outcome => outcome.isOk
  | _ => false

namespace Traffic

variable {t t' u : Traffic} {c d f bytes : Nat} {key name : String} {limit : Option Nat}
  {e : Event} {p q phase : Phase Outcome Load} {out : List Output}
  {ms : List (Moment Traffic Event)} {m : Moment Traffic Event}

/-- A step brings one caller at most, by a lookup of its key. -/
theorem Step.callers_size (h : Step t e t' out) : t'.gate.callers.size = t.gate.callers.size ∨
    (∃ key, e = .look key) ∧ t'.gate.callers.size = t.gate.callers.size + 1 := by
  rcases h.gate with he | ⟨ge, hg, hnew⟩
  · exact .inl (by rw [he])
  · rcases hg.callers_size with hsize | ⟨⟨key, load, harrive⟩, hsize⟩
    · exact .inl hsize
    · exact .inr ⟨⟨key, (hnew key load harrive).1⟩, hsize⟩

theorem Step.flights_size_le (h : Step t e t' out) :
    t.gate.flights.size ≤ t'.gate.flights.size := by
  rcases h.gate with he | ⟨ge, hg, -⟩
  · exact Nat.le_of_eq (by rw [he])
  · exact hg.flights_size_le

theorem flights_size_le_of_run (run : Run after? t ms u) :
    t.gate.flights.size ≤ u.gate.flights.size :=
  run.invariant (P := fun u => t.gate.flights.size ≤ u.gate.flights.size) (Nat.le_refl _)
    fun hle he => Nat.le_trans hle (step_of_after? he).flights_size_le

/-! ## Steps that leave the store alone -/

/-- Caller `c` comes at moment `m`. -/
def Comes (m : Moment Traffic Event) (c : Nat) : Prop :=
  m.before.gate.callers.size = c ∧ m.after.gate.callers.size = c + 1

/-- At moment `m` caller `c` takes a step, or comes. -/
def Belongs (m : Moment Traffic Event) (c : Nat) : Prop := m.event.caller? = some c ∨ Comes m c

/-- The entries of the store stay as they are, with their values, their order and all that is
counted but lookups. -/
structure Untouched (m : Moment Traffic Event) : Prop where
  lru : m.after.group.store.lru = m.before.group.store.lru
  stats : m.after.group.store.stats =
    { m.before.group.store.stats with gets := m.after.group.store.stats.gets }

theorem untouched_of_eq (h : t'.group.store = t.group.store) : Untouched ⟨t, e, t'⟩ :=
  ⟨congrArg Store.lru h, by rw [h]⟩

/-- A look that finds nothing leaves the entries as they are. -/
theorem untouched_of_get (sound : t.Sound) (hv : t.group.store.find? key = none)
    (h : t'.group.store = (t.group.store.get key).1) : Untouched ⟨t, e, t'⟩ := by
  have hstore := h.trans (sound.store.get_of_none hv)
  exact ⟨(congrArg Store.lru hstore :), by rw [hstore]; rfl⟩

/-- Whoever comes has looked and found nothing. -/
theorem Step.untouched_of_comes (h : Step t e t' out) (sound : t.Sound)
    (hc : Comes ⟨t, e, t'⟩ c) : Untouched ⟨t, e, t'⟩ := by
  obtain ⟨hbefore, hafter⟩ : t.gate.callers.size = c ∧ t'.gate.callers.size = c + 1 := hc
  rcases h.callers_size with hsize | ⟨⟨key, rfl⟩, -⟩
  · omega
  · cases h with
    | miss hk hv => exact untouched_of_get sound hv (Group.look_store hk)
    | refuse =>
      have hsize : t.gate.callers.size = c + 1 := hafter
      omega
    | hit hk hv =>
      have hsize : t.gate.callers.size = c + 1 := hafter
      omega

/-- Whoever has no value after its step has not touched the store. -/
theorem Step.untouched_of_caller (h : Step t e t' out) (sound : t.Sound)
    (he : e.caller? = some c) (hq : t'.gate.standing? c = some (key, q))
    (hno : q.hasValue = false) : Untouched ⟨t, e, t'⟩ := by
  cases h with
  | refuse => cases he
  | hit hk hv => cases he
  | miss hk hv => cases he
  | found hc hv =>
    -- A leader that finds a value has one.
    obtain rfl := Option.some.inj he
    obtain ⟨-, rfl⟩ : _ ∧ Phase.settled _ _ = q := by
      simpa [Gate.standing?_setPhase_of hc] using hq
    cases hno
  | ask hc hv => exact untouched_of_get sound hv Group.lookAgain_store
  | @settle c' f since k load side outcome hc ha hr =>
    cases outcome with
    | ok value =>
      obtain rfl := Option.some.inj he
      obtain ⟨-, rfl⟩ : _ ∧ Phase.settled _ _ = q := by
        simpa [Gate.standing?_setPhase_of hc] using hq
      cases hno
    | error fault => exact untouched_of_eq Group.receive_error
  | fallBack hc ha => exact untouched_of_eq Group.receive_error
  | registerPeers hp => cases he
  | _ => exact untouched_of_eq rfl

/-- Nobody takes a step without being there. -/
theorem Step.lt_size (h : Step t e t' out) (he : e.caller? = some c) :
    c < t.gate.callers.size := by
  have there {ge : Gate.Event Outcome Load} {gate : Gate Outcome Load} (hg : t.gate.Step ge gate)
      (hge : ge.caller? = some c) : c < t.gate.callers.size := by
    obtain ⟨k, p, q, hp, -⟩ := hg.turn hge
    exact Gate.lt_size_of_standing? hp
  cases h with
  | join hg => exact there hg he
  | found hc hv => exact Option.some.inj he ▸ Gate.lt_size_of_standing? hc
  | ask hc hv => exact Option.some.inj he ▸ Gate.lt_size_of_standing? hc
  | hold hc => exact Option.some.inj he ▸ Gate.lt_size_of_standing? hc
  | settle hc ha hr => exact Option.some.inj he ▸ Gate.lt_size_of_standing? hc
  | fallBack hc ha => exact Option.some.inj he ▸ Gate.lt_size_of_standing? hc
  | expire hc hl ho => exact Option.some.inj he ▸ Gate.lt_size_of_standing? hc
  | publish hg => exact there hg he
  | retire hg => exact there hg he
  | wake hg => exact there hg he
  | drop hg => exact there hg he
  | _ => cases he

theorem callers_size_le_of_run (run : Run after? t ms u) :
    t.gate.callers.size ≤ u.gate.callers.size := by
  refine run.invariant (P := fun u => t.gate.callers.size ≤ u.gate.callers.size) (Nat.le_refl _)
    fun hle he => ?_
  rcases (step_of_after? he).callers_size with hsize | ⟨-, hsize⟩
  · omega
  · omega

/-- Whoever has taken a step, or has come, is there. -/
theorem lt_size_of_belongs (run : Run after? t ms u) (hm : m ∈ ms) (h : Belongs m c) :
    c < u.gate.callers.size := by
  obtain ⟨pre, post, rfl⟩ := List.append_of_mem hm
  obtain ⟨-, he, rest⟩ := run.at_moment
  have hafter := callers_size_le_of_run rest
  rcases h with h | ⟨-, h⟩
  · have hbefore := (step_of_after? he).lt_size h
    rcases (step_of_after? he).callers_size with hsize | ⟨-, hsize⟩
    · omega
    · omega
  · omega

theorem Turn.hasValue (h : Turn t c key e p q) (hq : q.hasValue = false) : p.hasValue = false := by
  cases h with
  | publish => exact hq
  | retire => exact hq
  | _ => rfl

theorem Turn.caller?_eq (h : Turn t c key e p q) : e.caller? = some c := by
  cases h <;> rfl

/-- **A caller without a value has left the entries as they were**, from its coming on. -/
theorem untouched_of_run (run : Run after? (ofGroup (.create name bytes limit)) ms t)
    (hc : t.gate.standing? c = some (key, phase)) (hno : phase.hasValue = false) :
    ∀ x ∈ ms, Belongs x c → Untouched x := by
  induction run generalizing phase with
  | nil => exact fun x hx => absurd hx List.not_mem_nil
  | @snoc ms t t' e run he ih =>
    have step := step_of_after? he
    have sound := sound_of_run run
    intro x hx hbelongs
    rcases List.mem_append.mp hx with hx | hx
    · -- The caller had no value before, either, if it was there at all.
      rcases step.standing sound hc with ⟨hc', -⟩ | ⟨-, hnone⟩ | ⟨p, hp, turn⟩
      · exact ih hc' hno x hx hbelongs
      · have hlt := lt_size_of_belongs run hx hbelongs
        have hge : t.gate.standing? c ≠ none := by simp [Gate.standing?, hlt]
        exact absurd hnone hge
      · exact ih hp (turn.hasValue hno) x hx hbelongs
    · obtain rfl := List.mem_singleton.mp hx
      rcases hbelongs with hcaller | hcomes
      · exact step.untouched_of_caller sound hcaller hc hno
      · exact step.untouched_of_comes sound hcomes

/-! ## When there is no record -/

/-- Whoever leads a flight has led it before, unless it just joined. -/
theorem Turn.led? (h : Turn t c key e p q) (hl : q.led? = some f) :
    p.led? = some f ∨ e = .join c ∧ p = .arriving := by
  cases h with
  | lead hr => exact .inr ⟨rfl, rfl⟩
  | _ => first | exact .inl hl | cases hl

/-- A key without a record gets one only by somebody who joins. -/
theorem Step.lookup_eq_none (h : Step t e t' out) (sound : t.Sound)
    (hr : t.gate.records.lookup key = none)
    (hj : ∀ d, e = .join d → t.gate.standing? d ≠ some (key, .arriving)) :
    t'.gate.records.lookup key = none := by
  apply (sound.step h).gate.lookup_eq_none_iff.mpr
  rintro d f ⟨q, hq, hl⟩
  have hno := sound.gate.lookup_eq_none_iff.mp hr
  rcases h.standing sound hq with ⟨hq', -⟩ | ⟨rfl, -⟩ | ⟨p, hp, turn⟩
  · exact hno d f ⟨q, hq', hl⟩
  · cases hl
  · rcases turn.led? hl with hled | ⟨he, rfl⟩
    · exact hno d f ⟨p, hp, hled⟩
    · exact hj d he hp

/-- Somebody who wants `key` joins a flight or leads one. -/
def JoinsFor (m : Moment Traffic Event) (key : String) : Prop :=
  ∃ d, m.event = .join d ∧ m.before.gate.standing? d = some (key, .arriving)

theorem lookup_eq_none_of_run (run : Run after? t ms u) (sound : t.Sound)
    (hr : t.gate.records.lookup key = none) (hj : ∀ x ∈ ms, ¬ JoinsFor x key) :
    u.gate.records.lookup key = none := by
  induction run with
  | nil => exact hr
  | @snoc ms t₁ t₂ e run he ih =>
    have hr₁ := ih fun x hx => hj x (List.mem_append_left _ hx)
    apply (step_of_after? he).lookup_eq_none (sound.of_run run) hr₁
    intro d hd hs
    exact hj _ List.mem_concat_self ⟨d, hd, hs⟩

/-- **Whoever joins first when there is no record leads a flight of its own**, and begins by looking
again. -/
theorem Step.fresh_of_join (h : Step t (.join d) t' out) (sound : t.Sound)
    (hr : t.gate.records.lookup key = none) (hd : t.gate.standing? d = some (key, .arriving)) :
    t'.gate.standing? d = some (key, .leading t.gate.flights.size .fresh) := by
  cases h with
  | join hg =>
    obtain ⟨k, p, q, hp, hq, turn⟩ := hg.turn rfl
    obtain ⟨rfl, -⟩ := Gate.standing?_inj hd hp
    cases turn with
    | board hr' =>
      rw [hr] at hr'
      cases hr'
    | lead _ hw =>
      obtain rfl := (sound.callers _ _ hw).2
      exact hq

/-- A leader that looks again and finds nothing asks a source. -/
theorem asks_of_fresh (hd : t.gate.standing? d = some (key, .leading f .fresh))
    (hv : t.group.store.find? key = none) (owner : Option String) :
    ∃ t', t.step? (.lookAgain d owner) = some (t', [.asked (t.group.firstSide owner) key]) := by
  have hlead : t.leading? d = some (key, .fresh) := leading?_eq_some_iff.mpr ⟨f, hd⟩
  have hnone : (t.group.lookAgain key).2 = none := Group.lookAgain_snd.trans hv
  have hside : (t.group.lookAgain key).1.firstSide owner = t.group.firstSide owner :=
    Group.firstSide_of_setup Group.setup_lookAgain owner
  refine ⟨{ t with
    group := (t.group.lookAgain key).1
    gate := t.gate.setPhase d (.leading f (.asking (t.group.firstSide owner) t.now)) }, ?_⟩
  show t.lookAgain? d owner = _
  unfold lookAgain?
  simp only [hlead, Option.bind_eq_bind, Option.bind_some]
  rw [← Prod.eta (t.group.lookAgain key), hnone]
  simp only [proceed?_of_leading hd, hside, Option.bind_some, Option.pure_def]

/-- Leader `d` of flight `f` for `key` is about to look again, and asks the source that the owner of
the key decides upon if it still finds nothing. -/
structure LooksAgain (t : Traffic) (d : Nat) (key : String) (f : Nat) : Prop where
  stands : t.gate.standing? d = some (key, .leading f .fresh)
  asks : t.group.store.find? key = none → ∀ owner,
    ∃ t', t.step? (.lookAgain d owner) = some (t', [.asked (t.group.firstSide owner) key])

/-- Where a caller goes. -/
theorem Step.standing_after (h : Step t e t' out) (sound : t.Sound)
    (hd : t.gate.standing? d = some (key, p)) :
    t'.gate.standing? d = some (key, p) ∧ e.caller? ≠ some d ∨
      ∃ q, t'.gate.standing? d = some (key, q) ∧ Turn t d key e p q := by
  have hlt : d < t'.gate.callers.size := by
    have hlt := Gate.lt_size_of_standing? hd
    rcases h.callers_size with hsize | ⟨-, hsize⟩ <;> omega
  obtain ⟨k, q, hq⟩ : ∃ k q, t'.gate.standing? d = some (k, q) := by
    simp [Gate.standing?, hlt]
  rcases h.standing sound hq with ⟨hd', hne⟩ | ⟨-, hnone⟩ | ⟨p', hp', turn⟩
  · obtain ⟨rfl, rfl⟩ := Gate.standing?_inj hd hd'
    exact .inl ⟨hq, hne⟩
  · rw [hd] at hnone
    cases hnone
  · obtain ⟨rfl, rfl⟩ := Gate.standing?_inj hd hp'
    exact .inr ⟨q, hq, turn⟩

/-- Who takes no step stays where it is. -/
theorem Step.standing_of_ne (h : Step t e t' out) (sound : t.Sound)
    (hd : t.gate.standing? d = some (key, p)) (hne : e.caller? ≠ some d) :
    t'.gate.standing? d = some (key, p) := by
  rcases h.standing_after sound hd with ⟨hd', -⟩ | ⟨q, -, turn⟩
  · exact hd'
  · exact absurd turn.caller?_eq hne

theorem standing_of_run (run : Run after? t ms u) (sound : t.Sound)
    (hd : t.gate.standing? d = some (key, p)) (hne : ∀ x ∈ ms, x.event.caller? ≠ some d) :
    u.gate.standing? d = some (key, p) := by
  induction run with
  | nil => exact hd
  | @snoc ms t₁ t₂ e run he ih =>
    have hd₁ := ih fun x hx => hne x (List.mem_append_left _ hx)
    exact (step_of_after? he).standing_of_ne (sound.of_run run) hd₁ (hne _ List.mem_concat_self)

/-! ## A lookup that nobody disturbs -/

theorem step?_look_of_absent (hk : key ≠ "") (hv : t.group.store.find? key = none) :
    t.step? (.look key) =
      some ({ t with group := (t.group.look key).1, gate := t.gate.arrive key .fresh }, []) := by
  show some (t.look key) = _
  unfold look
  rw [← Prod.eta (t.group.look key), Group.look_snd hk, hv]
  rfl

theorem step?_join_of_arriving {work : Load} (hd : t.gate.callers[d]? = some ⟨key, work, .arriving⟩)
    (hr : t.gate.records.lookup key = none) : t.step? (.join d) =
      some (t.withGate ((t.gate.takeOff key).setPhase d (.leading t.gate.flights.size work)),
        []) := by
  show (t.gate.join? d).map _ = _
  unfold Gate.join?
  rw [hd]
  dsimp only
  rw [hr]
  rfl

/-- A newcomer that looks `key` up and is not disturbed goes to the source that its owner decides
upon: it comes to the gate, joins, looks again and asks. -/
def AsksAgain (t : Traffic) (key : String) (owner : Option String) : Prop :=
  ∃ t₁ t₂ t₃, t.step? (.look key) = some (t₁, []) ∧
    t₁.step? (.join t.gate.callers.size) = some (t₂, []) ∧
    t₂.step? (.lookAgain t.gate.callers.size owner) =
      some (t₃, [.asked (t.group.firstSide owner) key])

/-- **A lookup of an absent key without a record asks a source.** -/
theorem asksAgain_of_absent (sound : t.Sound) (hk : key ≠ "")
    (hr : t.gate.records.lookup key = none) (hv : t.group.store.find? key = none)
    (owner : Option String) : t.AsksAgain key owner := by
  -- The caller finds nothing and comes to the gate, where it leads a flight.
  have hlook := step?_look_of_absent hk hv
  have hd : (t.gate.arrive key .fresh).callers[t.gate.callers.size]? =
      some ⟨key, .fresh, .arriving⟩ := Array.getElem?_push_size
  have hjoin := step?_join_of_arriving (t := { t with
    group := (t.group.look key).1
    gate := t.gate.arrive key .fresh }) hd hr
  have hlead := (step_of_step? hjoin).fresh_of_join (sound.step (step_of_step? hlook)) hr
    (Gate.standing?_of_callers hd)
  -- There is still nothing to be found, so a source is asked.
  have hv' : (t.group.look key).1.store.find? key = none := by
    rw [Group.look_store hk, sound.store.find?_get]
    exact hv
  obtain ⟨t₃, hask⟩ := asks_of_fresh hlead hv' owner
  have hside : (t.group.look key).1.firstSide owner = t.group.firstSide owner :=
    Group.firstSide_of_setup Group.setup_look owner
  exact ⟨_, _, t₃, hlook, hjoin, hside ▸ hask⟩

/-! ## Loads that fail -/

/-- At moment `m` the load of flight `f` for `key`, led by caller `c`, comes to an end without a
value. -/
inductive Fails (m : Moment Traffic Event) (c : Nat) (key : String) (f : Nat) : Prop where
  /-- The load has ended in a fault, which is published, and the flight's record is retired. -/
  | faulted {fault : Fault} (he : m.event = .retire c)
      (hc : m.before.gate.standing? c = some (key, .published f (.error fault)))
  /-- The leader is dropped. -/
  | abandoned {load : Load} (he : m.event = .drop c)
      (hc : m.before.gate.standing? c = some (key, .leading f load))

/-- The leader of a load that fails has no value. -/
theorem Fails.exists_standing (h : Fails m c key f) : ∃ phase,
    m.before.gate.standing? c = some (key, phase) ∧ phase.led? = some f ∧
      phase.hasValue = false := by
  cases h with
  | faulted he hc => exact ⟨_, hc, rfl, rfl⟩
  | abandoned he hc => exact ⟨_, hc, rfl, rfl⟩

/-- When a load has failed its key has no record. -/
theorem Fails.lookup_eq_none (h : Fails m c key f) (sound : m.before.Sound)
    (step : Step m.before m.event m.after out) : m.after.gate.records.lookup key = none := by
  obtain ⟨phase, hc, hled, -⟩ := h.exists_standing
  have hcaller : m.event.caller? = some c := by
    cases h with
    | faulted he hc => rw [he]; rfl
    | abandoned he hc => rw [he]; rfl
  apply (sound.step step).gate.lookup_eq_none_iff.mpr
  rintro d f' ⟨q, hq, hl⟩
  rcases step.standing sound hq with ⟨hq', hne⟩ | ⟨rfl, -⟩ | ⟨p, hp, turn⟩
  · -- Nobody else has led a flight for the key.
    obtain ⟨rfl, -⟩ := sound.gate.leader_unique ⟨phase, hc, hled⟩ ⟨q, hq', hl⟩
    exact hne hcaller
  · cases hl
  · cases h with
    | faulted he hc =>
      rw [he] at turn
      cases turn
      cases hl
    | abandoned he hc =>
      rw [he] at turn
      cases turn <;> cases hl

/-- The end of a load without a value leaves the store alone. -/
theorem Fails.untouched (h : Fails m c key f) (step : Step m.before m.event m.after out) :
    Untouched m := by
  have hgroup : m.after.group = m.before.group := by
    cases h with
    | faulted he hc =>
      rw [he] at step
      generalize m.after = t' at step
      cases step
      rfl
    | abandoned he hc =>
      rw [he] at step
      generalize m.after = t' at step
      cases step
      rfl
  exact untouched_of_eq (congrArg Group.store hgroup)

/-- The load of flight `f` for `key`, led by caller `c`, which failed at moment `m` after `ms`, has
left no trace. -/
structure Traceless (ms : List (Moment Traffic Event)) (m : Moment Traffic Event) (c : Nat)
    (key : String) (f : Nat) : Prop where
  /-- The leader came by a lookup of the key. -/
  start : ∃ x ∈ ms, x.event = .look key ∧ Comes x c
  /-- From its coming to the end of the load it has left the store alone. -/
  untouched : ∀ x ∈ ms ++ [m], Belongs x c → Untouched x
  /-- The flight's record is gone. -/
  record : m.after.gate.records.lookup key = none
  /-- However it goes on, whoever joins next for the key leads a new flight, and when it takes its
  next step it asks a source unless it finds a value. -/
  next : ∀ {pre post : List (Moment Traffic Event)} {x : Moment Traffic Event} {u : Traffic}
    {d : Nat}, Run after? m.after (pre ++ x :: post) u → (∀ y ∈ pre, ¬ JoinsFor y key) →
      x.event = .join d → x.before.gate.standing? d = some (key, .arriving) →
        ∃ f', f < f' ∧ ∀ {rest : List (Moment Traffic Event)} {v : Traffic},
          Run after? x.after rest v → (∀ y ∈ rest, y.event.caller? ≠ some d) →
            v.LooksAgain d key f'
  /-- While nobody joins for the key and nothing is stored for it, a lookup of it asks a source. -/
  again : ∀ {post : List (Moment Traffic Event)} {u : Traffic}, Run after? m.after post u →
    (∀ y ∈ post, ¬ JoinsFor y key) → u.group.store.find? key = none →
      ∀ owner, u.AsksAgain key owner

/-- **A load that fails leaves no trace**, whichever way it fails and whatever happens meanwhile. -/
theorem failed_load_traceless
    (run : Run after? (ofGroup (.create name bytes limit)) (ms ++ [m]) t)
    (h : Fails m c key f) : Traceless ms m c key f := by
  obtain ⟨before, he, -⟩ := run.at_moment
  have step := step_of_after? he
  have sound := sound_of_run before
  have sound' := sound.step step
  obtain ⟨phase, hc, hled, hno⟩ := h.exists_standing
  have hrecord := h.lookup_eq_none sound step
  constructor
  case start =>
    obtain ⟨pre, x, post, rfl, hlook, hcomes⟩ := exists_start before hc
    exact ⟨x, List.mem_append_right _ List.mem_cons_self, hlook, hcomes⟩
  case untouched =>
    intro x hx hbelongs
    rcases List.mem_append.mp hx with hx | hx
    · exact untouched_of_run before hc hno x hx hbelongs
    · obtain rfl := List.mem_singleton.mp hx
      exact h.untouched step
  case record => exact hrecord
  case next =>
    intro pre post x u d hrun hpre hjoin hd
    obtain ⟨hbefore, hx, -⟩ := hrun.at_moment
    have soundx := sound'.of_run hbefore
    have hnone := lookup_eq_none_of_run hbefore sound' hrecord hpre
    rw [hjoin] at hx
    have hlead := (step_of_after? hx).fresh_of_join soundx hnone hd
    -- Flights are numbered as they begin, so the new one comes after the one that failed.
    have hlt : f < m.before.gate.flights.size := sound.gate.flight_lt ⟨phase, hc, hled⟩
    have hle := flights_size_le_of_run hbefore
    have hsize := step.flights_size_le
    refine ⟨x.before.gate.flights.size, by omega, ?_⟩
    intro rest v hrest hother
    have hstays := standing_of_run hrest (soundx.step (step_of_after? hx)) hlead hother
    exact ⟨hstays, asks_of_fresh hstays⟩
  case again =>
    intro post u hrun hpost habsent owner
    have hnone := lookup_eq_none_of_run hrun sound' hrecord hpost
    exact asksAgain_of_absent (sound'.of_run hrun) (sound.key_ne hc) hnone habsent owner

/-- A peer has trouble, and then the loader keeps the load waiting until the limit is over. -/
def timeout : List Event :=
  [.registerPeers, .look "k", .join 0, .lookAgain 0 (some "p"), .receive 0 (.error (.peer "down")),
    .hold 0, .tick 5, .expire 0, .publish 0]

theorem failed_load_traceless_timeout :
    ∃ t, after? (trail after? (ofGroup (.create "g" 10 (some 5))) timeout).2 (.retire 0) = some t ∧
      Traceless (trail after? (ofGroup (.create "g" 10 (some 5))) timeout).1
        ⟨(trail after? (ofGroup (.create "g" 10 (some 5))) timeout).2, .retire 0, t⟩ 0 "k" 0 := by
  have run := run_trail after? (ofGroup (.create "g" 10 (some 5))) timeout
  have hc : (trail after? (ofGroup (.create "g" 10 (some 5))) timeout).2.gate.standing? 0 =
      some ("k", .published 0 (.error (.timeout "loading k exceeded 5ms"))) := by cbv
  obtain ⟨t, ht⟩ : ∃ t, after?
      (trail after? (ofGroup (.create "g" 10 (some 5))) timeout).2 (.retire 0) = some t := by
    obtain ⟨work, hcaller⟩ := Gate.exists_callers_of_standing? hc
    simp [after?, step?, Gate.retire?, hcaller]
  exact ⟨t, ht, failed_load_traceless (run.snoc ht) (.faulted rfl hc)⟩

end Traffic

end ReadThrough
