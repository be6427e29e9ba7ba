import ReadThrough.Proofs.Flight.Sound

/-!
# The members of a flight

A flight whose work is over has its outcome for good: first its leader has it, then everybody can
learn it. Whoever has once been on a flight is still on it, has its outcome, was dropped, or may
have gone elsewhere because the flight was closed. So once the outcome of a flight is decided it is
the only one that its members can have.

## Main definitions

* `Gate.Decided g key f outcome`: the outcome of a flight
* `Gate.Whereabouts g key f phase`: what can have become of a member of a flight

## Main results

* `Gate.Decided.step`, `Gate.Whereabouts.step`: every step keeps them
* `Gate.Whereabouts.of_decided`: the members of a flight share its outcome
-/

namespace ReadThrough.Gate

variable {α ω : Type} {g g' : Gate α ω} {c d f : Nat} {key k : String} {outcome outcome' : α}
  {p q : Phase α ω} {e : Event α ω} {signal : Signal α}

/-! ## Outcomes -/

/-- The outcome of a flight: its leader has it, or its members can learn it. -/
def Decided (g : Gate α ω) (key : String) (f : Nat) (outcome : α) : Prop :=
  (∃ c, g.standing? c = some (key, .settled f outcome)) ∨
    g.flights[f]? = some ⟨key, .sent outcome⟩

/-- An outcome is decided once and for all. -/
theorem Decided.step (h : g.Decided key f outcome) (sound : g.Sound) (hs : Step g e g') :
    g'.Decided key f outcome := by
  rcases h with ⟨c, hc⟩ | hf
  · rcases hs.standing_after hc with ⟨hc', -⟩ | ⟨q, hc', turn⟩
    · exact .inl ⟨c, hc'⟩
    · -- All that the leader can do is publish it.
      cases turn with
      | publish => exact .inr ((sound.step hs).flight_of_signal hc' rfl rfl)
  · exact .inr (sound.flight_final hs hf (by simp))

/-- What the members of a flight with an outcome can learn is nothing yet, or this outcome. -/
theorem Decided.flight (h : g.Decided key f outcome) (sound : g.Sound) :
    g.flights[f]? = some ⟨key, .pending⟩ ∨ g.flights[f]? = some ⟨key, .sent outcome⟩ := by
  rcases h with ⟨c, hc⟩ | hf
  · exact .inl (sound.flight_of_signal hc rfl rfl)
  · exact .inr hf

/-- A flight has one outcome at most. -/
theorem Decided.unique (h : g.Decided key f outcome) (h' : g.Decided k f outcome')
    (sound : g.Sound) : outcome = outcome' := by
  rcases h with ⟨c, hc⟩ | hf
  · rcases h' with ⟨d, hd⟩ | hf'
    · obtain rfl := sound.leads_inj c d key k f ⟨_, hc, rfl⟩ ⟨_, hd, rfl⟩
      exact (Phase.settled.inj (standing?_inj hc hd).2).2
    · have hpending := (flights_inj (sound.flight_of_signal hc rfl rfl) hf').2
      cases hpending
  · rcases Decided.flight h' sound with hf' | hf'
    · have hpending := (flights_inj hf hf').2
      cases hpending
    · exact Signal.sent.inj (flights_inj hf hf').2

/-- Nobody is at work for a flight that has its outcome. -/
theorem Decided.not_leading (h : g.Decided key f outcome) (sound : g.Sound) {work : ω} :
    g.standing? c ≠ some (k, .leading f work) := by
  intro hc
  rcases h with ⟨d, hd⟩ | hf
  · obtain rfl := sound.leads_inj c d k key f ⟨_, hc, rfl⟩ ⟨_, hd, rfl⟩
    cases (standing?_inj hc hd).2
  · cases (flights_inj hf (sound.flight_of_signal hc rfl rfl)).2

/-- A flight that has its outcome is not closed. -/
theorem Decided.not_closed (h : g.Decided key f outcome) (sound : g.Sound) :
    g.flights[f]? ≠ some ⟨k, .closed⟩ := by
  intro hclosed
  rcases h.flight sound with hf | hf
  · cases (flights_inj hclosed hf).2
  · cases (flights_inj hclosed hf).2

/-! ## Members -/

/-- What can have become of somebody who was on flight `f` for `key`. -/
inductive Whereabouts (g : Gate α ω) (key : String) (f : Nat) : Phase α ω → Prop where
  /-- It is still on the flight. -/
  | aboard {phase : Phase α ω} (hf : phase.flight? = some f) : Whereabouts g key f phase
  /-- It has the outcome of the flight. -/
  | answered {outcome : α} (hd : g.Decided key f outcome) : Whereabouts g key f (.finished outcome)
  /-- It was dropped. -/
  | dropped : Whereabouts g key f .dropped
  /-- It may be anywhere, because the flight was closed. -/
  | elsewhere {phase : Phase α ω} (hf : g.flights[f]? = some ⟨key, .closed⟩) :
      Whereabouts g key f phase

/-- Every step of a member of a flight leads to where members can be. -/
theorem Whereabouts.step (h : Whereabouts g key f p) (sound : g.Sound) (hs : Step g e g')
    (hd : g.standing? d = some (key, p)) :
    ∃ q, g'.standing? d = some (key, q) ∧ Whereabouts g' key f q := by
  rcases hs.standing_after hd with ⟨hd', -⟩ | ⟨q, hd', turn⟩
  · refine ⟨p, hd', ?_⟩
    cases h with
    | aboard hf => exact .aboard hf
    | answered hdecided => exact .answered (hdecided.step sound hs)
    | dropped => exact .dropped
    | elsewhere hf => exact .elsewhere (sound.flight_final hs hf (by simp))
  · refine ⟨q, hd', ?_⟩
    cases h with
    | aboard hf =>
      cases turn with
      | board hr => cases hf
      | lead hr hw => cases hf
      | proceed => exact .aboard hf
      | settle => exact .aboard hf
      | publish => exact .aboard hf
      | retire =>
        obtain rfl := Option.some.inj hf
        have hsent := sound.flight_of_signal hd rfl rfl
        exact .answered (.inr (sound.flight_final hs hsent (by simp)))
      | hear hsent =>
        obtain rfl := Option.some.inj hf
        have hsent := sound.flight_of_heard hd hsent
        exact .answered (.inr (sound.flight_final hs hsent (by simp)))
      | startOver hclosed =>
        obtain rfl := Option.some.inj hf
        have hclosed := sound.flight_of_heard hd hclosed
        exact .elsewhere (sound.flight_final hs hclosed (by simp))
      | leave => exact .dropped
      | abandon => exact .dropped
    | answered hdecided => cases turn
    | dropped => cases turn
    | elsewhere hf => exact .elsewhere (sound.flight_final hs hf (by simp))

/-- **The members of a flight share its outcome**, as soon as it is decided. -/
theorem Whereabouts.of_decided (h : Whereabouts g key f p) (sound : g.Sound)
    (hdecided : g.Decided k f outcome) :
    p.flight? = some f ∨ p = .dropped ∨ p = .finished outcome := by
  cases h with
  | aboard hf => exact .inl hf
  | answered hd =>
    obtain rfl := hdecided.unique hd sound
    exact .inr (.inr rfl)
  | dropped => exact .inr (.inl rfl)
  | elsewhere hf => exact absurd hf (hdecided.not_closed sound)

/-- Whoever is on a flight is on one for its own key. -/
theorem Sound.exists_flight (sound : g.Sound) (hd : g.standing? d = some (key, p))
    (hf : p.flight? = some f) : ∃ signal, g.flights[f]? = some ⟨key, signal⟩ := by
  cases p with
  | waiting f' =>
    obtain rfl := Option.some.inj hf
    exact sound.flight_of_waiting d key _ hd
  | arriving => cases hf
  | finished outcome => cases hf
  | dropped => cases hf
  | _ =>
    obtain ⟨signal, -, hflight⟩ := sound.flight_of_led d key _ f hd hf
    exact ⟨signal, hflight⟩

/-- A flight keeps its key. -/
theorem Step.exists_flight (hs : Step g e g') (hf : g.flights[f]? = some ⟨key, signal⟩) :
    ∃ signal', g'.flights[f]? = some ⟨key, signal'⟩ := by
  rcases hs.flight_after hf with hf' | ⟨signal', hf', -⟩
  · exact ⟨signal, hf'⟩
  · exact ⟨signal', hf'⟩

end ReadThrough.Gate
