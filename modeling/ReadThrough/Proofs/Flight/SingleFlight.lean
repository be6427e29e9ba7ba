import ReadThrough.Proofs.Flight.Rest

/-!
# Single flight

One execution at a time for a key, one outcome for all who share it. This is put together from what
is known of executions, members and rounds.

## Main definitions

* `Gate.SingleFlight ms g`: what single flight promises of a run

## Main results

* `Gate.mem_begun_of_led`: an execution belongs to the caller that began it
* `Gate.exists_last_join`: where a caller got on its flight
* `Gate.shared_cases`: what becomes of the members of an execution that is completed
* `Gate.single_flight`: every run keeps the promise
-/

namespace ReadThrough.Gate

variable {α ω : Type} {g g' : Gate α ω} {c f : Nat} {key : String} {p phase : Phase α ω}
  {outcome : α} {ms : List (Moment (Gate α ω) (Event α ω))}

/-! ## Who began what -/

/-- Whoever leads a flight began it. -/
theorem mem_begun_of_led (run : Run step? (empty : Gate α ω) ms g)
    (h : g.standing? c = some (key, phase)) (hl : phase.led? = some f) : (c, f) ∈ begun ms := by
  induction run generalizing phase with
  | nil => simp at h
  | snoc run he ih =>
    rw [begun_snoc, List.mem_append, Option.mem_toList]
    rcases (step_of_step? he).standing h with ⟨h', -⟩ | ⟨rfl, -⟩ | ⟨p, hp, turn⟩
    · exact .inl (ih h' hl)
    · cases hl
    · cases turn with
      | lead hr hw =>
        obtain rfl := Option.some.inj hl
        exact .inr (Moment.begun?_eq_some_iff.mpr ⟨rfl, key, _, h⟩)
      | proceed => exact .inl (ih hp hl)
      | settle => exact .inl (ih hp hl)
      | publish => exact .inl (ih hp hl)
      | _ => cases hl

/-- A completed execution was begun. -/
theorem exists_begun_of_settled (run : Run step? (empty : Gate α ω) ms g)
    (h : (f, outcome) ∈ settled ms) : ∃ c, (c, f) ∈ begun ms := by
  induction run with
  | nil => simp [settled] at h
  | snoc run he ih =>
    simp only [begun_snoc, List.mem_append]
    rcases mem_settled_snoc.mp h with h | h
    · obtain ⟨c, hc⟩ := ih h
      exact ⟨c, .inl hc⟩
    · obtain ⟨c, key, work, -, hc⟩ := Moment.settled?_eq_some_iff.mp h
      exact ⟨c, .inl (mem_begun_of_led run hc rfl)⟩

theorem Step.flights_size_le {e : Event α ω} (hs : Step g e g') :
    g.flights.size ≤ g'.flights.size := by
  cases hs with
  | lead => simp [takeOff]
  | publish => simp [setSignal]
  | abandon => simp [setSignal]
  | _ => exact Nat.le_refl _

theorem lt_of_mem_begun (run : Run step? (empty : Gate α ω) ms g) (h : (c, f) ∈ begun ms) :
    f < g.flights.size := by
  induction run with
  | nil => simp [begun] at h
  | snoc run he ih =>
    have step := step_of_step? he
    rw [begun_snoc, List.mem_append, Option.mem_toList] at h
    rcases h with h | h
    · exact Nat.lt_of_lt_of_le (ih h) step.flights_size_le
    · obtain ⟨-, key, work, hc⟩ := Moment.begun?_eq_some_iff.mp h
      exact ((sound_of_run run).step step).flight_lt ⟨_, hc, rfl⟩

/-- What the caller that begins its own work does: it leads a new flight, and runs what it brought
along. -/
theorem begun?_turn {m : Moment (Gate α ω) (Event α ω)} (step : Step m.before m.event m.after)
    (h : m.begun? = some (c, f)) : f = m.before.flights.size ∧ ∃ key work,
      m.before.callers[c]? = some ⟨key, work, .arriving⟩ ∧
        m.after.standing? c = some (key, .leading f work) := by
  obtain ⟨he, key, work, hc⟩ := Moment.begun?_eq_some_iff.mp h
  rcases step.standing hc with ⟨-, hne⟩ | ⟨h, -⟩ | ⟨p, hp, turn⟩
  · exact absurd (by rw [he]; rfl) hne
  · cases h
  · rw [he] at turn
    cases turn with
    | lead hr hw => exact ⟨rfl, key, work, hw, hc⟩

/-- **No execution has been begun twice.** -/
theorem begun_flights_nodup (run : Run step? (empty : Gate α ω) ms g) :
    ((begun ms).map Prod.snd).Nodup := by
  induction run with
  | nil => exact List.nodup_nil
  | @snoc ms g g' e run he ih =>
    rw [begun_snoc]
    refine nodup_map_snoc ih ?_
    rintro ⟨c, f⟩ hm hb
    -- The flight is a new one.
    obtain ⟨rfl, -⟩ := begun?_turn (step_of_step? he) hm
    obtain ⟨⟨c', f'⟩, hb', heq⟩ := List.mem_map.mp hb
    exact absurd (lt_of_mem_begun run hb') (Nat.not_lt.mpr (Nat.le_of_eq heq.symm))

/-! ## Where a caller got on its flight -/

/-- A caller keeps its key. -/
theorem standing_of_run (run : Run step? g ms g') (h : g.standing? c = some (key, p)) :
    ∃ q, g'.standing? c = some (key, q) := by
  induction run with
  | nil => exact ⟨p, h⟩
  | snoc _ he ih =>
    obtain ⟨q, hq⟩ := ih
    rcases (step_of_step? he).standing_after hq with ⟨hq', -⟩ | ⟨q', hq', -⟩
    · exact ⟨q, hq'⟩
    · exact ⟨q', hq'⟩

/-- **The last time a caller looked for a flight**, it began its own or joined the one that its key
had a record of. -/
theorem exists_last_join (run : Run step? (empty : Gate α ω) ms g)
    (h : g.standing? c = some (key, phase)) (hf : flightOf? ms c = some f) :
    ∃ pre m post, ms = pre ++ m :: post ∧ m.event = .join c ∧
      (∀ m' ∈ post, m'.event ≠ .join c) ∧
      (m.begun? = some (c, f) ∨
        m.boarded? = some (c, f) ∧ m.before.records.lookup key = some f) := by
  obtain ⟨m, hm, hf⟩ := Option.bind_eq_some_iff.mp hf
  obtain ⟨⟨key', q⟩, hq, hf⟩ := Option.bind_eq_some_iff.mp hf
  -- The last look is the first one in the run read backwards.
  obtain ⟨hj, post, pre, hms, hpost⟩ := List.find?_eq_some_iff_append.mp hm
  have hms : ms = pre.reverse ++ m :: post.reverse := by
    rw [← List.reverse_reverse ms, hms]
    simp
  subst hms
  have he := Moment.joins_iff.mp hj
  obtain ⟨-, hstep, rest⟩ := run.at_moment
  obtain ⟨q', hq'⟩ := standing_of_run rest hq
  obtain ⟨rfl, -⟩ := standing?_inj h hq'
  refine ⟨pre.reverse, m, post.reverse, rfl, he, fun m' hm' hj' => ?_, ?_⟩
  · have hno := hpost m' (List.mem_reverse.mp hm')
    simp [Moment.joins_iff.mpr hj'] at hno
  · rcases (step_of_step? hstep).standing hq with ⟨-, hne⟩ | ⟨rfl, -⟩ | ⟨p, hp, turn⟩
    · exact absurd (by rw [he]; rfl) hne
    · cases hf
    · rw [he] at turn
      cases turn with
      | board hr =>
        obtain rfl := Option.some.inj hf
        exact .inr ⟨Moment.boarded?_eq_some_iff.mpr ⟨he, key, hq⟩, hr⟩
      | lead hr hw =>
        obtain rfl := Option.some.inj hf
        exact .inl (Moment.begun?_eq_some_iff.mpr ⟨he, key, _, hq⟩)

/-! ## Members of an execution that is completed -/

/-- A completed execution is not abandoned. -/
theorem not_closed_of_settled (run : Run step? (empty : Gate α ω) ms g)
    (h : (f, outcome) ∈ settled ms) : g.flights[f]? ≠ some ⟨key, .closed⟩ := by
  obtain ⟨key', hdecided⟩ := exists_decided run h
  exact hdecided.not_closed (sound_of_run run)

/-- **What becomes of the members of an execution that is completed**: they have its outcome, or
were dropped, or are still on its flight. -/
theorem shared_cases (run : Run step? (empty : Gate α ω) ms g)
    (h : (c, f) ∈ begun ms ∨ (c, f) ∈ boarded ms) (hs : (f, outcome) ∈ settled ms) :
    ∃ key phase, g.standing? c = some (key, phase) ∧
      (phase = .finished outcome ∨ phase = .dropped ∨ phase.flight? = some f) := by
  obtain ⟨key, phase, hc, member⟩ := whereabouts_of_member run h
  obtain ⟨key', hdecided⟩ := exists_decided run hs
  refine ⟨key, phase, hc, ?_⟩
  rcases member.of_decided (sound_of_run run) hdecided with haboard | hdropped | hfinished
  · exact .inr (.inr haboard)
  · exact .inr (.inl hdropped)
  · exact .inl hfinished

/-- When nobody can move, nobody is on the flight of a completed execution any more. -/
theorem flight?_ne_of_rest {ready : ω → Option α} (run : Run step? (empty : Gate α ω) ms g)
    (rest : g.advance? ready = none) (hs : (f, outcome) ∈ settled ms)
    (h : g.standing? c = some (key, phase)) : phase.flight? ≠ some f := by
  have sound := sound_of_run run
  -- A leader with an outcome could publish it, so it has done so.
  have sent : ∃ key, g.flights[f]? = some ⟨key, .sent outcome⟩ := by
    obtain ⟨key, ⟨d, hd⟩ | hf⟩ := exists_decided run hs
    · cases idle_of_rest sound rest hd
    · exact ⟨key, hf⟩
  obtain ⟨key', hf⟩ := sent
  intro ha
  cases idle_of_rest sound rest h with
  | @working f' work hw =>
    obtain rfl := Option.some.inj ha
    have hpending := sound.flight_of_signal h rfl rfl
    simp [hf] at hpending
  | @waiting f' hp =>
    obtain rfl := Option.some.inj ha
    simp [signal?_of_flights hf] at hp
  | finished => cases ha
  | dropped => cases ha

/-! ## The promise -/

/-- What single flight promises of a run with the moments `ms` that comes to `g`. -/
structure SingleFlight (ms : List (Moment (Gate α ω) (Event α ω))) (g : Gate α ω) : Prop where
  /-- One execution at most is running for a key. -/
  one_running : ∀ c d key f f' work work', g.standing? c = some (key, .leading f work) →
    g.standing? d = some (key, .leading f' work') → c = d ∧ f = f'
  /-- Nobody begins its work twice, and no execution is begun twice. -/
  begun_once : ((begun ms).map Prod.fst).Nodup ∧ ((begun ms).map Prod.snd).Nodup
  /-- What a caller runs is its own work. -/
  begun_own : ∀ m ∈ ms, ∀ c f, m.begun? = some (c, f) → ∃ key work,
    m.before.callers[c]? = some ⟨key, work, .arriving⟩ ∧
      m.after.standing? c = some (key, .leading f work)
  /-- No execution is completed twice, and none that was not begun. -/
  settled_once : ((settled ms).map Prod.fst).Nodup ∧
    ∀ f outcome, (f, outcome) ∈ settled ms → ∃ c, (c, f) ∈ begun ms
  /-- An answer is the outcome of one execution for the caller's key: its own, or one that had a
  record when the caller last looked for a flight. -/
  answered : ∀ c key outcome, g.standing? c = some (key, .finished outcome) →
    ∃ f, (f, outcome) ∈ settled ms ∧ (∃ signal, g.flights[f]? = some ⟨key, signal⟩) ∧
      ∃ pre m post, ms = pre ++ m :: post ∧ m.event = .join c ∧
        (∀ m' ∈ post, m'.event ≠ .join c) ∧
        (m.begun? = some (c, f) ∨
          m.boarded? = some (c, f) ∧ m.before.records.lookup key = some f)
  /-- Whoever got on the flight of a completed execution has its outcome, unless it was dropped or
  is still on the flight. -/
  shared : ∀ c f outcome, (c, f) ∈ begun ms ∨ (c, f) ∈ boarded ms → (f, outcome) ∈ settled ms →
    ∃ key phase, g.standing? c = some (key, phase) ∧
      (phase = .finished outcome ∨ phase = .dropped ∨ phase.flight? = some f)
  /-- When nobody can move, nobody is on such a flight any more. -/
  shared_at_rest : ∀ ready, g.advance? ready = none → ∀ f outcome, (f, outcome) ∈ settled ms →
    ∀ c key phase, g.standing? c = some (key, phase) → phase.flight? ≠ some f
  /-- A caller starts over only if the leader it waited for was dropped at work. -/
  again : ∀ c key phase e g', g.standing? c = some (key, phase) → phase ≠ .arriving →
    g.step? e = some g' → g'.standing? c = some (key, .arriving) →
    ∃ f, phase = .waiting f ∧ (key, f) ∈ abandoned ms ∧ ∀ outcome, (f, outcome) ∉ settled ms
  /-- Where no leader was dropped, a caller leads once or joins once, when it has come to it. -/
  once : ∀ c key phase, g.standing? c = some (key, phase) → (∀ f, (key, f) ∉ abandoned ms) →
    (phase = .arriving → (c ∉ (begun ms).map Prod.fst) ∧ c ∉ (boarded ms).map Prod.fst) ∧
      (phase ≠ .arriving →
        (begun ms).countP (·.1 == c) + (boarded ms).countP (·.1 == c) = 1)

theorem losses_eq_zero (h : ∀ f, (key, f) ∉ abandoned ms) : losses ms key c = 0 := by
  simp only [losses, List.countP_eq_zero, Bool.and_eq_true, not_and, Bool.not_eq_true,
    Option.any_eq_false]
  rintro m hm - ⟨k, f⟩ ha
  rw [beq_eq_false_iff_ne]
  rintro rfl
  exact h f (List.mem_filterMap.mpr ⟨m, hm, ha⟩)

/-- Where no leader was dropped, a caller looks for a flight once. -/
theorem rounds_eq_one (run : Run step? (empty : Gate α ω) ms g)
    (h : g.standing? c = some (key, phase)) (hno : ∀ f, (key, f) ∉ abandoned ms) :
    (phase = .arriving → rounds ms c = 0) ∧ (phase ≠ .arriving → rounds ms c = 1) := by
  obtain ⟨h₁, h₂⟩ := rounds_bounds run h
  rw [losses_eq_zero hno] at h₁ h₂
  refine ⟨?_, fun hne => Nat.le_antisymm h₁ (rounds_pos run h hne)⟩
  rintro rfl
  exact Nat.le_zero.mp (h₂ trivial)

/-- A caller starts over only because its flight was closed. -/
theorem startOver_cases {e : Event α ω} (run : Run step? (empty : Gate α ω) ms g)
    (h : g.standing? c = some (key, phase)) (hne : phase ≠ .arriving) (step : Step g e g')
    (h' : g'.standing? c = some (key, .arriving)) :
    ∃ f, phase = .waiting f ∧ g.flights[f]? = some ⟨key, .closed⟩ := by
  rcases step.standing h' with ⟨hc, -⟩ | ⟨-, hc⟩ | ⟨p, hc, turn⟩
  · obtain ⟨-, rfl⟩ := standing?_inj h hc
    exact absurd rfl hne
  · rw [h] at hc
    cases hc
  · obtain ⟨-, rfl⟩ := standing?_inj h hc
    cases turn with
    | @startOver f hs =>
      exact ⟨f, rfl, (sound_of_run run).flight_of_heard h hs⟩

/-- **Single flight.** Every run keeps the promise: one execution at a time for a key, each caller's
own work once at most, one outcome for all who share an execution, and nobody starts over unless
the leader it waited for was dropped. -/
theorem single_flight (run : Run step? (empty : Gate α ω) ms g) : SingleFlight ms g where
  one_running c d key f f' work work' hc hd :=
    (sound_of_run run).leader_unique ⟨_, hc, rfl⟩ ⟨_, hd, rfl⟩
  begun_once := ⟨begun_nodup run, begun_flights_nodup run⟩
  begun_own m hm c f hb := by
    obtain ⟨pre, post, rfl⟩ := List.append_of_mem hm
    exact (begun?_turn (step_of_step? run.at_moment.2.1) hb).2
  settled_once := ⟨settled_nodup run, fun f outcome h => exists_begun_of_settled run h⟩
  answered c key outcome hc := by
    obtain ⟨f, hf, hs⟩ := exists_settled_of_finished run hc
    obtain ⟨key', phase, signal, hc', hfl, -⟩ := member_cases run hf
    obtain ⟨rfl, -⟩ := standing?_inj hc hc'
    exact ⟨f, hs, ⟨signal, hfl⟩, exists_last_join run hc hf⟩
  shared c f outcome h hs := shared_cases run h hs
  shared_at_rest ready rest f outcome hs c key phase hc := flight?_ne_of_rest run rest hs hc
  again c key phase e g' hc hne he hc' := by
    obtain ⟨f, hw, hf⟩ := startOver_cases run hc hne (step_of_step? he) hc'
    exact ⟨f, hw, mem_abandoned_of_closed run hf, fun outcome hs => not_closed_of_settled run hs hf⟩
  once c key phase hc hno := by
    obtain ⟨h₀, h₁⟩ := rounds_eq_one run hc hno
    rw [rounds_eq run c] at h₀ h₁
    refine ⟨fun harr => ?_, h₁⟩
    obtain ⟨hb, hj⟩ := Nat.add_eq_zero_iff.mp (h₀ harr)
    rw [List.countP_eq_zero] at hb hj
    constructor
    · intro hm
      obtain ⟨x, hx, rfl⟩ := List.mem_map.mp hm
      exact hb x hx (beq_self_eq_true _)
    · intro hm
      obtain ⟨x, hx, rfl⟩ := List.mem_map.mp hm
      exact hj x hx (beq_self_eq_true _)

/-- After the takeover the new leader completes its work, and the one who still waits hears of
it. -/
theorem single_flight_takeover :
    SingleFlight
        (trail step? (empty : Gate Nat Unit)
          (takeover ++ [.settle 2 7, .publish 2, .retire 2, .wake 1])).1
        (trail step? (empty : Gate Nat Unit)
          (takeover ++ [.settle 2 7, .publish 2, .retire 2, .wake 1])).2 ∧
      (trail step? (empty : Gate Nat Unit)
          (takeover ++ [.settle 2 7, .publish 2, .retire 2, .wake 1])).2.standing? 1 =
        some ("k", .finished 7) :=
  ⟨single_flight (run_trail ..), rfl⟩

end ReadThrough.Gate
