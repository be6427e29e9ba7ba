import ReadThrough.Proofs.Group.Sound

/-!
# Where answers come from

Whatever a caller is answered was brought about before: a value by a source that answered with it
when asked for this very key, a fault by a source as well or by a load of this key that took longer
than its limit. The invariant behind this follows an outcome on its way, from the source to the
leader and from there into the store and to those who wait.

## Main definitions

* `Traffic.Yields m key outcome`: a moment brings an outcome for a key about
* `Traffic.Backed ms t`: whatever the store holds and leaders promise was brought about in `ms`
* `Traffic.Answer t e key outcome`: the four ways to be answered

## Main results

* `Traffic.backed_of_run`: all that is held or promised was brought about before
* `Traffic.answer_of_shown`, `Traffic.exists_yields_of_answered`: so were all answers
-/

namespace ReadThrough

/-- The outcome of a leader whose work is over. -/
def Phase.result? {α ω : Type} : Phase α ω → Option α
  | .settled _ outcome | .published _ outcome => some outcome
  | _ => none

namespace Traffic

variable {t t' : Traffic} {c f bytes : Nat} {key name : String} {limit : Option Nat} {load : Load}
  {e : Event} {side : Side} {value : Value} {outcome : Outcome}
  {ms : List (Moment Traffic Event)} {m : Moment Traffic Event}

/-! ## What brings an outcome about -/

/-- A moment brings an outcome for a key about. -/
inductive Yields (m : Moment Traffic Event) (key : String) : Outcome → Prop where
  /-- A source answers with it when asked for the key. -/
  | answered {side : Side} {outcome : Outcome}
      (h : m.before.call? m.event = some (side, key, outcome)) : Yields m key outcome
  /-- The limit of a load of the key is over. -/
  | overdue {c f since limit : Nat} {side : Side} (he : m.event = .expire c)
      (hc : m.before.gate.standing? c = some (key, .leading f (.awaiting side since)))
      (hl : m.before.group.limit = some limit) (ho : m.before.isOver since) :
      Yields m key
        (.error (.timeout ("loading " ++ key ++ " exceeded " ++ Text.Duration.describe limit)))

/-- Only a source brings a value about. -/
theorem Yields.exists_call (h : Yields m key (.ok value)) :
    ∃ side, m.before.call? m.event = some (side, key, .ok value) := by
  generalize ho : (.ok value : Outcome) = outcome at h
  cases h with
  | answered h => exact ⟨_, h⟩
  | overdue => cases ho

/-- Whatever the store holds and leaders promise was brought about in `ms`. -/
structure Backed (ms : List (Moment Traffic Event)) (t : Traffic) : Prop where
  /-- The values in the store. -/
  store : ∀ key value, t.group.store.find? key = some value → ∃ m ∈ ms, Yields m key (.ok value)
  /-- The outcomes of leaders. -/
  result : ∀ c key phase outcome, t.gate.standing? c = some (key, phase) →
    phase.result? = some outcome → ∃ m ∈ ms, Yields m key outcome
  /-- The outcomes that the members of a flight can learn. -/
  sent : ∀ (f : Nat) key outcome, t.gate.flights[f]? = some ⟨key, .sent outcome⟩ →
    ∃ m ∈ ms, Yields m key outcome

/-- A leader whose work is over has its outcome from the store, from a source, or from the clock. -/
theorem Step.result {out : List Output} {phase : Phase Outcome Load} (h : Step t e t' out)
    (sound : t.Sound) (hc : t'.gate.standing? c = some (key, phase))
    (hr : phase.result? = some outcome) :
    (∃ p, t.gate.standing? c = some (key, p) ∧ p.result? = some outcome) ∨
      (∃ value, outcome = .ok value ∧ t.group.store.find? key = some value) ∨
      Yields ⟨t, e, t'⟩ key outcome := by
  rcases h.standing sound hc with ⟨hc', -⟩ | ⟨rfl, -⟩ | ⟨p, hp, turn⟩
  · exact .inl ⟨phase, hc', hr⟩
  · cases hr
  · cases turn with
    | found hv =>
      obtain rfl := Option.some.inj hr
      exact .inr (.inl ⟨_, rfl, hv⟩)
    | settle ha =>
      obtain rfl := Option.some.inj hr
      exact .inr (.inr (.answered (call?_of_leading hp ha)))
    | expire hl ho =>
      obtain rfl := Option.some.inj hr
      exact .inr (.inr (.overdue rfl hp hl ho))
    | publish => exact .inl ⟨_, hp, hr⟩
    | _ => cases hr

/-- What the members of a flight can learn was published before, or its leader publishes it. -/
theorem Step.sent {out : List Output} (h : Step t e t' out) (sound : t.Sound)
    (hf : t'.gate.flights[f]? = some ⟨key, .sent outcome⟩) :
    t.gate.flights[f]? = some ⟨key, .sent outcome⟩ ∨
      ∃ c phase, t.gate.standing? c = some (key, phase) ∧ phase.result? = some outcome := by
  rcases h.gate with he | ⟨ge, hg, -⟩
  · rw [he] at hf
    exact .inl hf
  · rcases hg.flight hf with hf | ⟨h, -⟩ | ⟨change, former, hf⟩
    · exact .inl hf
    · cases h
    · cases change with
      | @publish c k outcome hc =>
        obtain rfl := sound.gate.key_of_leads ⟨_, hc, rfl⟩ hf
        exact .inr ⟨c, _, hc, rfl⟩

/-- **All that is held or promised was brought about before.** -/
theorem backed_of_run (run : Run after? (ofGroup (.create name bytes limit)) ms t) :
    Backed ms t := by
  induction run with
  | nil =>
    refine ⟨fun key value h => ?_, fun c key phase outcome h => ?_, fun f key outcome h => ?_⟩
    · have hnone : (ofGroup (.create name bytes limit)).group.store.find? key = none :=
        Store.Sound.find?_empty bytes
      rw [hnone] at h
      cases h
    · simp [ofGroup] at h
    · simp [ofGroup, Gate.empty] at h
  | @snoc ms t t' e run he ih =>
    have step := step_of_after? he
    have sound := sound_of_run run
    -- What was brought about before is still so, and the new moment may add to it.
    have old {key : String} {outcome : Outcome} (h : ∃ m ∈ ms, Yields m key outcome) :
        ∃ m ∈ ms ++ [⟨t, e, t'⟩], Yields m key outcome := by
      obtain ⟨m, hm, hy⟩ := h
      exact ⟨m, List.mem_append_left _ hm, hy⟩
    have new {key : String} {outcome : Outcome} (h : Yields ⟨t, e, t'⟩ key outcome) :
        ∃ m ∈ ms ++ [⟨t, e, t'⟩], Yields m key outcome :=
      ⟨_, List.mem_append_right _ List.mem_cons_self, h⟩
    refine ⟨fun key value h => ?_, fun c key phase outcome hc hr => ?_, fun f key outcome hf => ?_⟩
    · -- A value comes into the store only from a source, and under the key it was asked for.
      rcases sound.find?_cases step with ⟨side, k, v, hcall, hstore⟩ | ⟨-, hsame⟩
      · rw [hstore, sound.store.find?_add] at h
        split at h
        · cases h
        · split at h
          · rename_i hk
            obtain rfl := Option.some.inj h
            subst hk
            exact new (.answered hcall)
          · exact old (ih.store key value h)
      · rw [hsame] at h
        exact old (ih.store key value h)
    · rcases step.result sound hc hr with ⟨p, hp, hr⟩ | ⟨value, rfl, hv⟩ | hy
      · exact old (ih.result c key p outcome hp hr)
      · exact old (ih.store key value hv)
      · exact new hy
    · rcases step.sent sound hf with hf | ⟨c, phase, hc, hr⟩
      · exact old (ih.sent f key outcome hf)
      · exact old (ih.result c key phase outcome hc hr)

/-! ## What can be seen of an event -/

/-- The ways to be answered. -/
inductive Answer (t : Traffic) : Event → String → Outcome → Prop where
  /-- There is no key. -/
  | refused : Answer t (.look "") "" (.error (.invalidKey "key is required"))
  /-- The store has a value. -/
  | stored {key : String} {value : Value} (hk : key ≠ "")
      (hv : t.group.store.find? key = some value) : Answer t (.look key) key (.ok value)
  /-- A leader has published its outcome. -/
  | led {c f : Nat} {key : String} {outcome : Outcome}
      (hc : t.gate.standing? c = some (key, .published f outcome)) :
      Answer t (.retire c) key outcome
  /-- A caller hears from the flight it waits for. -/
  | shared {c f : Nat} {key : String} {outcome : Outcome}
      (hc : t.gate.standing? c = some (key, .waiting f))
      (hf : t.gate.flights[f]? = some ⟨key, .sent outcome⟩) : Answer t (.wake c) key outcome

theorem answered_mem_answer? (h : .answered key outcome ∈ t.answer? c) :
    t.gate.standing? c = some (key, .finished outcome) := by
  obtain ⟨⟨k, work, phase⟩, hc, hx⟩ := Option.bind_eq_some_iff.mp (Option.mem_toList.mp h)
  obtain ⟨o, ho, he⟩ := Option.map_eq_some_iff.mp hx
  obtain ⟨rfl, rfl⟩ := Output.answered.inj he
  cases phase with
  | finished o' =>
    obtain rfl := Option.some.inj ho
    exact Gate.standing?_of_callers hc
  | _ => cases ho

/-- **There are no other answers.** -/
theorem answer_of_shown (sound : t.Sound) (h : .answered key outcome ∈ t.shown e) :
    Answer t e key outcome := by
  obtain ⟨t', step⟩ := exists_step_of_shown h
  generalize t.shown e = out at h step
  cases step with
  | refuse =>
    obtain ⟨rfl, rfl⟩ := Output.answered.inj (List.mem_singleton.mp h)
    exact .refused
  | hit hk hv =>
    obtain ⟨rfl, rfl⟩ := Output.answered.inj (List.mem_singleton.mp h)
    exact .stored hk hv
  | @retire c gate hg =>
    -- An answer is told by the one the event is about, who had none before.
    rcases hg.standing (answered_mem_answer? h) with ⟨-, hne⟩ | ⟨h, -⟩ | ⟨p, hp, turn⟩
    · exact absurd rfl hne
    · cases h
    · cases turn with
      | retire => exact .led hp
  | @wake c gate hg =>
    rcases hg.standing (answered_mem_answer? h) with ⟨-, hne⟩ | ⟨h, -⟩ | ⟨p, hp, turn⟩
    · exact absurd rfl hne
    · cases h
    · cases turn with
      | hear hs => exact .shared hp (sound.gate.flight_of_heard hp hs)
  | ask hc hv => cases List.mem_singleton.mp h
  | fallBack hc ha => cases List.mem_singleton.mp h
  | _ => cases h

/-- **Every answer was brought about before**, but for the refusal of a lookup without a key. -/
theorem exists_yields_of_answered (run : Run after? (ofGroup (.create name bytes limit)) ms t)
    (h : .answered key outcome ∈ t.shown e) (hk : key ≠ "") :
    ∃ m ∈ ms, Yields m key outcome := by
  have backed := backed_of_run run
  cases answer_of_shown (sound_of_run run) h with
  | refused => exact absurd rfl hk
  | stored _ hv => exact backed.store key _ hv
  | led hc => exact backed.result _ key _ outcome hc rfl
  | shared _ hf => exact backed.sent _ key outcome hf

/-- A lookup without a key is refused, whatever the state. -/
theorem shown_look_empty : t.shown (.look "") =
    [.answered "" (.error (.invalidKey "key is required"))] := rfl

theorem answered_empty (sound : t.Sound) (h : .answered "" outcome ∈ t.shown e) :
    outcome = .error (.invalidKey "key is required") := by
  generalize hkey : "" = key at h
  cases answer_of_shown sound h with
  | refused => rfl
  | stored hk hv => exact absurd hkey.symm hk
  | led hc => exact absurd hkey.symm (sound.key_ne hc)
  | shared hc hf => exact absurd hkey.symm (sound.key_ne hc)

end Traffic

end ReadThrough
