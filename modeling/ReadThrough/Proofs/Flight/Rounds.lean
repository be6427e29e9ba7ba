import ReadThrough.Proofs.Flight.Outcomes

/-!
# How often a caller goes round

A caller goes round when it looks for a flight. It leads a flight once at most, and it looks again
only when the leader it waited for was dropped, so a dropped leader costs each of those who were
pending one round at most.

## Main definitions

* `Gate.rounds ms c`: how often caller `c` looked for a flight
* `Gate.losses ms key c`: how many leaders for `key` were dropped at work while caller `c` was
  pending

## Main results

* `Gate.begun_nodup`: a caller begins its own work once at most
* `Gate.rounds_eq`: a round is a flight of one's own or another's
* `Gate.rounds_bounds`: rounds are bounded by losses
-/

namespace ReadThrough.Gate

variable {α ω : Type} {g g' : Gate α ω} {c f : Nat} {key : String} {phase : Phase α ω}
  {ms : List (Moment (Gate α ω) (Event α ω))} {m : Moment (Gate α ω) (Event α ω)}

/-- How often caller `c` looked for a flight. -/
def rounds (ms : List (Moment (Gate α ω) (Event α ω))) (c : Nat) : Nat :=
  ms.countP (·.joins c)

/-- How many leaders for `key` were dropped at work while caller `c` was pending. -/
def losses (ms : List (Moment (Gate α ω) (Event α ω))) (key : String) (c : Nat) : Nat :=
  ms.countP fun m => m.pends c && m.abandoned?.any (·.1 == key)

theorem rounds_snoc_of_joins (h : m.event = .join c) :
    rounds (ms ++ [m]) c = rounds ms c + 1 := by
  simp [rounds, Moment.joins_iff.mpr h]

theorem rounds_snoc_of_ne (h : m.event ≠ .join c) : rounds (ms ++ [m]) c = rounds ms c := by
  have hj : ¬ m.joins c = true := fun hj => h (Moment.joins_iff.mp hj)
  simp [rounds, hj]

theorem losses_le_snoc : losses ms key c ≤ losses (ms ++ [m]) key c := by
  simp [losses, List.countP_append]

theorem losses_snoc (hp : m.pends c = true) (ha : m.abandoned? = some (key, f)) :
    losses (ms ++ [m]) key c = losses ms key c + 1 := by
  simp [losses, hp, ha]

/-! ## Leading once -/

/-- Who began its own work looks for no flight any more. -/
theorem flown_of_mem_begun (run : Run step? (empty : Gate α ω) ms g) (h : (c, f) ∈ begun ms) :
    ∃ key phase, g.standing? c = some (key, phase) ∧ phase ≠ .arriving ∧
      ∀ f, phase ≠ .waiting f := by
  induction run with
  | nil => simp [begun] at h
  | snoc run he ih =>
    rw [begun_snoc, List.mem_append, Option.mem_toList] at h
    rcases h with h | h
    · obtain ⟨key, p, hc, hna, hnw⟩ := ih h
      rcases (step_of_step? he).standing_after hc with ⟨hc', -⟩ | ⟨q, hc', turn⟩
      · exact ⟨key, p, hc', hna, hnw⟩
      · -- Only those who wait come back to look for a flight.
        refine ⟨key, q, hc', ?_⟩
        cases turn with
        | board => exact absurd rfl hna
        | lead => exact absurd rfl hna
        | hear => exact absurd rfl (hnw _)
        | startOver => exact absurd rfl (hnw _)
        | leave => exact absurd rfl (hnw _)
        | _ => simp
    · obtain ⟨rfl, key, work, hc⟩ := Moment.begun?_eq_some_iff.mp h
      exact ⟨key, _, hc, by simp, by simp⟩

/-- **A caller begins its own work once at most.** -/
theorem begun_nodup (run : Run step? (empty : Gate α ω) ms g) :
    ((begun ms).map Prod.fst).Nodup := by
  induction run with
  | nil => exact List.nodup_nil
  | @snoc ms g g' e run he ih =>
    rw [begun_snoc]
    refine nodup_map_snoc ih ?_
    rintro ⟨c, f⟩ hm hb
    -- The caller was looking for a flight, and who has led one does not look again.
    obtain ⟨rfl, key, work, hc⟩ := Moment.begun?_eq_some_iff.mp hm
    have harr : g.standing? c = some (key, .arriving) := by
      rcases (step_of_step? he).standing hc with ⟨-, hne⟩ | ⟨h, -⟩ | ⟨p, hp, turn⟩
      · exact absurd rfl hne
      · cases h
      · cases turn with
        | lead => exact hp
    obtain ⟨⟨c', f'⟩, hb', heq⟩ := List.mem_map.mp hb
    obtain rfl : c' = c := heq
    obtain ⟨key', p, hp, hna, -⟩ := flown_of_mem_begun run hb'
    exact hna (standing?_inj hp harr).2

/-- **A round is a flight of one's own or another's.** -/
theorem rounds_eq (run : Run step? (empty : Gate α ω) ms g) (c : Nat) :
    rounds ms c = (begun ms).countP (·.1 == c) + (boarded ms).countP (·.1 == c) := by
  induction run with
  | nil => rfl
  | @snoc ms g g' e run he ih =>
    have hr : rounds (ms ++ [⟨g, e, g'⟩]) c = rounds ms c +
        if (⟨g, e, g'⟩ : Moment _ _).joins c then 1 else 0 := by
      simp [rounds, List.countP_append, List.countP_cons]
    rw [hr, begun_snoc, boarded_snoc, List.countP_append, List.countP_append, ih]
    cases e with
    | join d =>
      obtain ⟨key, p, q, -, hq, turn⟩ := (step_of_step? he).turn rfl
      cases turn with
      | board => simp [Moment.joins, Moment.begun?, Moment.boarded?, hq, List.countP_cons]; omega
      | lead => simp [Moment.joins, Moment.begun?, Moment.boarded?, hq, List.countP_cons]; omega
    | _ => simp [Moment.joins, Moment.begun?, Moment.boarded?]

/-- Who has a flight, or had one, has looked for it. -/
theorem rounds_pos (run : Run step? (empty : Gate α ω) ms g)
    (h : g.standing? c = some (key, phase)) (hne : phase ≠ .arriving) : 0 < rounds ms c := by
  induction run generalizing phase with
  | nil => simp at h
  | snoc run he ih =>
    rcases (step_of_step? he).standing h with ⟨h', hne'⟩ | ⟨rfl, -⟩ | ⟨p, hp, turn⟩
    · rw [rounds_snoc_of_ne (by rintro rfl; exact hne' rfl)]
      exact ih h' hne
    · exact absurd rfl hne
    · cases turn with
      | board => rw [rounds_snoc_of_joins rfl]; omega
      | lead => rw [rounds_snoc_of_joins rfl]; omega
      | startOver => exact absurd rfl hne
      | _ => rw [rounds_snoc_of_ne (by simp)]; exact ih hp (by simp)

/-! ## Looking again -/

/-- A caller that is to look for a flight: it arrives, or the flight it waits for was closed. -/
def Restless (g : Gate α ω) (key : String) : Phase α ω → Prop
  | .arriving => True
  | .waiting f => g.flights[f]? = some ⟨key, .closed⟩
  | _ => False

theorem rounds_eq_zero (run : Run step? (empty : Gate α ω) ms g) (h : g.standing? c = none) :
    rounds ms c = 0 := by
  induction run with
  | nil => rfl
  | @snoc ms g g' e run he ih =>
    have hc : g.standing? c = none := by
      by_contra hne
      obtain ⟨⟨key, p⟩, hc⟩ := Option.ne_none_iff_exists'.mp hne
      rcases (step_of_step? he).standing_after hc with ⟨hc', -⟩ | ⟨q, hc', -⟩ <;> simp [h] at hc'
    have hj : e ≠ .join c := by
      rintro rfl
      obtain ⟨key, p, -, hp, -⟩ := (step_of_step? he).turn rfl
      simp [hc] at hp
    rw [rounds_snoc_of_ne hj]
    exact ih hc

theorem rounds_bounds (run : Run step? (empty : Gate α ω) ms g)
    (h : g.standing? c = some (key, phase)) :
    rounds ms c ≤ losses ms key c + 1 ∧ (Restless g key phase → rounds ms c ≤ losses ms key c) := by
  -- The second bound carries the induction: who is to look again has lost a leader for each round.
  induction run generalizing phase with
  | nil => simp at h
  | @snoc ms g g' e run he ih =>
    have step := step_of_step? he
    have sound := sound_of_run run
    have hle : losses ms key c ≤ losses (ms ++ [⟨g, e, g'⟩]) key c := losses_le_snoc
    rcases step.standing h with ⟨h', hne⟩ | ⟨rfl, hnone⟩ | ⟨p, hp, turn⟩
    · obtain ⟨h₁, h₂⟩ := ih h'
      rw [rounds_snoc_of_ne (by rintro rfl; exact hne rfl)]
      refine ⟨by omega, fun hr => ?_⟩
      cases phase with
      | arriving => exact Nat.le_trans (h₂ trivial) hle
      | waiting f =>
        rcases step.flight hr with hf | ⟨hf, -⟩ | ⟨change, former, hf⟩
        · exact Nat.le_trans (h₂ hf) hle
        · cases hf
        · -- The leader of the flight is dropped at this very moment, while the caller waits.
          cases change with
          | @abandon d k work hd =>
            obtain rfl := sound.key_of_leads ⟨_, hd, rfl⟩ hf
            rw [losses_snoc (f := f) (by simp [Moment.pends, h', Phase.isLive])
              (Moment.abandoned?_eq_some_iff.mpr ⟨d, work, rfl, hd⟩)]
            exact h₁
      | _ => exact hr.elim
    · have hj : e ≠ .join c := by
        rintro rfl
        obtain ⟨key, p, -, hp, -⟩ := step.turn rfl
        simp [hnone] at hp
      rw [rounds_snoc_of_ne hj, rounds_eq_zero run hnone]
      omega
    · cases turn with
      | @board f hr =>
        -- The flight joined has a leader, so it is not closed.
        obtain ⟨-, h₂⟩ := ih hp
        have h₂ := h₂ trivial
        rw [rounds_snoc_of_joins rfl]
        refine ⟨by omega, fun hrest => ?_⟩
        obtain ⟨d, hl⟩ := sound.lookup_eq_some_iff.mp hr
        rcases step.flight hrest with hf | ⟨hf, -⟩ | ⟨change, -⟩
        · exact absurd hf (sound.not_closed_of_leads hl)
        · cases hf
        · cases change
      | lead =>
        obtain ⟨-, h₂⟩ := ih hp
        have h₂ := h₂ trivial
        rw [rounds_snoc_of_joins rfl]
        exact ⟨by omega, False.elim⟩
      | startOver hs =>
        have h₂ := (ih hp).2 (sound.flight_of_heard hp hs)
        rw [rounds_snoc_of_ne (by simp)]
        exact ⟨by omega, fun _ => by omega⟩
      | _ =>
        have h₁ := (ih hp).1
        rw [rounds_snoc_of_ne (by simp)]
        exact ⟨by omega, False.elim⟩

end ReadThrough.Gate
