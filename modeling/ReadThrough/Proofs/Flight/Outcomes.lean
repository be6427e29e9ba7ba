import ReadThrough.Proofs.Flight.History
import ReadThrough.Proofs.Flight.Members

/-!
# Executions, outcomes and members

Where the outcome of an execution is to be found, and who is a member of which flight, in every
state that a run comes to: an execution that is over is known from its leader until it is published
and from its flight ever after, and a caller with an answer has it from the flight it was on.

## Main results

* `Gate.settled_nodup`: an execution is completed at most once
* `Gate.exists_decided`: its outcome stays with its leader and then with its flight
* `Gate.flightOf?_eq_of_flight?`, `Gate.exists_settled_of_finished`: the flight a caller is on, or
  has its answer from
* `Gate.member_cases`, `Gate.whereabouts_of_member`: what can become of a member of a flight
* `Gate.mem_abandoned_of_closed`: only a dropped leader closes a flight
-/

namespace ReadThrough.Gate

variable {α ω : Type} {g : Gate α ω} {c f : Nat} {key : String} {outcome : α}
  {ms : List (Moment (Gate α ω) (Event α ω))}

/-! ## Outcomes -/

section Outcomes

theorem mem_settled_snoc {m : Moment (Gate α ω) (Event α ω)} :
    (f, outcome) ∈ settled (ms ++ [m]) ↔
      (f, outcome) ∈ settled ms ∨ m.settled? = some (f, outcome) := by
  rw [settled_snoc, List.mem_append, Option.mem_toList]

theorem mem_settled_of_settled (run : Run step? (empty : Gate α ω) ms g)
    (h : g.standing? c = some (key, .settled f outcome)) : (f, outcome) ∈ settled ms := by
  induction run with
  | nil => simp at h
  | snoc run he ih =>
    rw [mem_settled_snoc]
    rcases (step_of_step? he).standing h with ⟨h, -⟩ | ⟨h, -⟩ | ⟨p, hp, turn⟩
    · exact .inl (ih h)
    · cases h
    · cases turn with
      | settle => exact .inr (Moment.settled?_eq_some_iff.mpr ⟨_, _, _, rfl, hp⟩)

theorem mem_settled_of_published (run : Run step? (empty : Gate α ω) ms g)
    (h : g.standing? c = some (key, .published f outcome)) : (f, outcome) ∈ settled ms := by
  induction run with
  | nil => simp at h
  | snoc run he ih =>
    rw [mem_settled_snoc]
    rcases (step_of_step? he).standing h with ⟨h, -⟩ | ⟨h, -⟩ | ⟨p, hp, turn⟩
    · exact .inl (ih h)
    · cases h
    · cases turn with
      | publish => exact .inl (mem_settled_of_settled run hp)

theorem mem_settled_of_sent (run : Run step? (empty : Gate α ω) ms g)
    (h : g.flights[f]? = some ⟨key, .sent outcome⟩) : (f, outcome) ∈ settled ms := by
  induction run with
  | nil => simp [empty] at h
  | snoc run he ih =>
    rw [mem_settled_snoc]
    rcases (step_of_step? he).flight h with h | ⟨h, -⟩ | ⟨change, -⟩
    · exact .inl (ih h)
    · cases h
    · cases change with
      | publish hc => exact .inl (mem_settled_of_settled run hc)

/-- The outcome of a completed execution is with its leader until it is published, and with its
flight from then on. -/
theorem exists_decided (run : Run step? (empty : Gate α ω) ms g) (h : (f, outcome) ∈ settled ms) :
    ∃ key, g.Decided key f outcome := by
  induction run with
  | nil => simp [settled] at h
  | snoc run he ih =>
    have step := step_of_step? he
    rcases mem_settled_snoc.mp h with h | h
    · obtain ⟨key, hdecided⟩ := ih h
      exact ⟨key, hdecided.step (sound_of_run run) step⟩
    · obtain ⟨c, key, work, rfl, hc⟩ := Moment.settled?_eq_some_iff.mp h
      rcases step.standing_after hc with ⟨-, hne⟩ | ⟨q, hc', turn⟩
      · exact absurd rfl hne
      · cases turn with
        | settle => exact ⟨key, .inl ⟨c, hc'⟩⟩

/-- **An execution is completed at most once.** -/
theorem settled_nodup (run : Run step? (empty : Gate α ω) ms g) :
    ((settled ms).map Prod.fst).Nodup := by
  induction run with
  | nil => exact List.nodup_nil
  | @snoc ms g g' e run he ih =>
    rw [settled_snoc]
    refine nodup_map_snoc ih ?_
    rintro ⟨f, outcome⟩ hm hf
    -- The flight has somebody at work, so that its work is not over yet.
    obtain ⟨c, key, work, -, hc⟩ := Moment.settled?_eq_some_iff.mp hm
    obtain ⟨⟨f', outcome'⟩, hf', heq⟩ := List.mem_map.mp hf
    obtain rfl : f' = f := heq
    obtain ⟨key', hdecided⟩ := exists_decided run hf'
    exact hdecided.not_leading (sound_of_run run) hc

end Outcomes

/-! ## Abandoned flights -/

/-- **Only a leader dropped at work closes a flight.** -/
theorem mem_abandoned_of_closed (run : Run step? (empty : Gate α ω) ms g)
    (h : g.flights[f]? = some ⟨key, .closed⟩) : (key, f) ∈ abandoned ms := by
  induction run with
  | nil => simp [empty] at h
  | snoc run he ih =>
    rw [abandoned_snoc, List.mem_append, Option.mem_toList]
    rcases (step_of_step? he).flight h with h | ⟨h, -⟩ | ⟨change, former, hf⟩
    · exact .inl (ih h)
    · cases h
    · cases change with
      | @abandon c k work hc =>
        obtain rfl := (sound_of_run run).key_of_leads ⟨_, hc, rfl⟩ hf
        exact .inr (Moment.abandoned?_eq_some_iff.mpr ⟨c, work, rfl, hc⟩)

/-! ## Members -/

section Members

variable {phase : Phase α ω}

/-- **The flight a caller is on** is the one it got when it last looked. -/
theorem flightOf?_eq_of_flight? (run : Run step? (empty : Gate α ω) ms g)
    (h : g.standing? c = some (key, phase)) (hf : phase.flight? = some f) :
    flightOf? ms c = some f := by
  induction run generalizing phase with
  | nil => simp at h
  | @snoc ms g g' e run he ih =>
    rcases (step_of_step? he).standing h with ⟨h', hne⟩ | ⟨rfl, -⟩ | ⟨p, hp, turn⟩
    · rw [flightOf?_snoc_of_ne (by rintro rfl; exact hne rfl)]
      exact ih h' hf
    · cases hf
    · cases turn with
      | board => rw [flightOf?_snoc_of_joins rfl, h, Option.bind_some, hf]
      | lead => rw [flightOf?_snoc_of_joins rfl, h, Option.bind_some, hf]
      | proceed => rw [flightOf?_snoc_of_ne (by simp)]; exact ih hp hf
      | settle => rw [flightOf?_snoc_of_ne (by simp)]; exact ih hp hf
      | publish => rw [flightOf?_snoc_of_ne (by simp)]; exact ih hp hf
      | retire => cases hf
      | hear => cases hf
      | startOver => cases hf
      | leave => cases hf
      | abandon => cases hf

/-- **An answer is the outcome of the flight the caller was on.** -/
theorem exists_settled_of_finished (run : Run step? (empty : Gate α ω) ms g)
    (h : g.standing? c = some (key, .finished outcome)) :
    ∃ f, flightOf? ms c = some f ∧ (f, outcome) ∈ settled ms := by
  induction run with
  | nil => simp at h
  | @snoc ms g g' e run he ih =>
    simp only [mem_settled_snoc]
    rcases (step_of_step? he).standing h with ⟨h', hne⟩ | ⟨h', -⟩ | ⟨p, hp, turn⟩
    · rw [flightOf?_snoc_of_ne (by rintro rfl; exact hne rfl)]
      obtain ⟨f, hf, hm⟩ := ih h'
      exact ⟨f, hf, .inl hm⟩
    · cases h'
    · -- A leader is answered with its own outcome, and the others with what its flight tells.
      cases turn with
      | @retire f =>
        rw [flightOf?_snoc_of_ne (by simp)]
        exact ⟨f, flightOf?_eq_of_flight? run hp rfl, .inl (mem_settled_of_published run hp)⟩
      | @hear f _ hs =>
        rw [flightOf?_snoc_of_ne (by simp)]
        have hf := (sound_of_run run).flight_of_heard hp hs
        exact ⟨f, flightOf?_eq_of_flight? run hp rfl, .inl (mem_settled_of_sent run hf)⟩

/-- **What can become of a member of a flight**, which is a flight for the member's key. -/
theorem member_cases (run : Run step? (empty : Gate α ω) ms g) (h : flightOf? ms c = some f) :
    ∃ key phase signal, g.standing? c = some (key, phase) ∧
      g.flights[f]? = some ⟨key, signal⟩ ∧ Whereabouts g key f phase := by
  induction run with
  | nil => cases h
  | @snoc ms g g' e run he ih =>
    have step := step_of_step? he
    have sound := sound_of_run run
    by_cases hj : e = .join c
    · -- The caller has got on the flight at this very moment.
      subst hj
      rw [flightOf?_snoc_of_joins rfl] at h
      obtain ⟨⟨key, phase⟩, hc, hf⟩ := Option.bind_eq_some_iff.mp h
      obtain ⟨signal, hfl⟩ := (sound.step step).exists_flight hc hf
      exact ⟨key, phase, signal, hc, hfl, .aboard hf⟩
    · rw [flightOf?_snoc_of_ne hj] at h
      obtain ⟨key, phase, signal, hc, hf, member⟩ := ih h
      obtain ⟨signal', hf'⟩ := step.exists_flight hf
      obtain ⟨q, hc', member'⟩ := member.step sound step hc
      exact ⟨key, q, signal', hc', hf', member'⟩

/-- Whoever once got on a flight is where its members can be. -/
theorem whereabouts_of_member (run : Run step? (empty : Gate α ω) ms g)
    (h : (c, f) ∈ begun ms ∨ (c, f) ∈ boarded ms) :
    ∃ key phase, g.standing? c = some (key, phase) ∧ Whereabouts g key f phase := by
  induction run with
  | nil => simp [begun, boarded] at h
  | @snoc ms g g' e run he ih =>
    have old (h : (c, f) ∈ begun ms ∨ (c, f) ∈ boarded ms) :
        ∃ key phase, g'.standing? c = some (key, phase) ∧ Whereabouts g' key f phase := by
      obtain ⟨key, phase, hc, member⟩ := ih h
      obtain ⟨q, hc', member'⟩ := member.step (sound_of_run run) (step_of_step? he) hc
      exact ⟨key, q, hc', member'⟩
    rw [begun_snoc, boarded_snoc, List.mem_append, List.mem_append, Option.mem_toList,
      Option.mem_toList] at h
    rcases h with (h | h) | (h | h)
    · exact old (.inl h)
    · obtain ⟨-, key, work, hc⟩ := Moment.begun?_eq_some_iff.mp h
      exact ⟨key, _, hc, .aboard rfl⟩
    · exact old (.inr h)
    · obtain ⟨-, key, hc⟩ := Moment.boarded?_eq_some_iff.mp h
      exact ⟨key, _, hc, .aboard rfl⟩

end Members

end ReadThrough.Gate
