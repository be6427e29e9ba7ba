import Mathlib.Data.List.Perm.Basic
import ReadThrough.Proofs.Flight.Rounds

/-!
# A gate at rest

When nobody can move, whoever is still there is at work, or waits for an outcome that somebody at
work will deliver. So no caller waits in vain, and no record outlives its flight.

## Main definitions

* `Gate.Idle ready g phase`: where callers stand when nobody can move
* `Gate.running g`: the keys for which somebody is at work

## Main results

* `Gate.idle_of_rest`: at rest everybody is idle
* `Gate.no_stranding`: records, leaders and waiters at rest, and how often a caller goes round
-/

namespace ReadThrough.Gate

variable {α ω : Type} {g : Gate α ω} {c f : Nat} {key : String} {phase : Phase α ω}
  {ready : ω → Option α} {ms : List (Moment (Gate α ω) (Event α ω))}

/-! ## Who is there when nobody can move -/

/-- Where callers stand when nobody can move. -/
inductive Idle (ready : ω → Option α) (g : Gate α ω) : Phase α ω → Prop where
  /-- The work is not over yet. -/
  | working {f : Nat} {work : ω} (hw : ready work = none) : Idle ready g (.leading f work)
  /-- The outcome is still to come. -/
  | waiting {f : Nat} (hs : g.signal? f = some .pending) : Idle ready g (.waiting f)
  /-- The caller has its answer. -/
  | finished {outcome : α} : Idle ready g (.finished outcome)
  /-- The caller was dropped. -/
  | dropped : Idle ready g .dropped

/-- **When nobody can move, everybody is idle.** -/
theorem idle_of_rest (sound : g.Sound) (rest : g.advance? ready = none)
    (h : g.standing? c = some (key, phase)) : Idle ready g phase := by
  obtain ⟨work, hc⟩ := exists_callers_of_standing? h
  have hlt := List.mem_range.mpr (lt_size_of_standing? h)
  -- The caller's next step is not possible; for most phases there is one that always is.
  have stuck : (g.next? ready c).bind g.step? = none := List.findSome?_eq_none_iff.mp rest c hlt
  simp only [next?, hc, Option.bind_some] at stuck
  cases phase with
  | arriving =>
    simp only [Option.bind_some, step?, join?, hc] at stuck
    split at stuck <;> cases stuck
  | waiting f =>
    obtain ⟨signal, hf⟩ := sound.flight_of_waiting c key f h
    have hs := signal?_of_flights hf
    simp only [Option.bind_some, step?, wake?, hc, hs] at stuck
    cases signal with
    | pending => exact .waiting hs
    | sent outcome => cases stuck
    | closed => cases stuck
  | leading f work' =>
    cases hw : ready work' with
    | none => exact .working hw
    | some outcome => simp [hw, step?, settle?, hc] at stuck
  | settled f outcome => simp [step?, publish?, hc] at stuck
  | published f outcome => simp [step?, retire?, hc] at stuck
  | finished outcome => exact .finished
  | dropped => exact .dropped

/-- At rest whoever leads a flight is at work. -/
theorem leading_of_leads (sound : g.Sound) (rest : g.advance? ready = none)
    (h : g.Leads c key f) : ∃ work, g.standing? c = some (key, .leading f work) := by
  obtain ⟨phase, hc, hl⟩ := h
  cases idle_of_rest sound rest hc with
  | @working f' work hw =>
    obtain rfl := Option.some.inj hl
    exact ⟨work, hc⟩
  | waiting hs => cases hl
  | finished => cases hl
  | dropped => cases hl

/-- **At rest a record stands for somebody at work.** -/
theorem record_iff_leading (sound : g.Sound) (rest : g.advance? ready = none) :
    (key, f) ∈ g.records ↔ ∃ c work, g.standing? c = some (key, .leading f work) := by
  rw [sound.mem_records]
  constructor
  · rintro ⟨c, hl⟩
    exact ⟨c, leading_of_leads sound rest hl⟩
  · rintro ⟨c, work, hc⟩
    exact ⟨c, _, hc, rfl⟩

/-- **At rest whoever waits has somebody at work for it.** -/
theorem leading_of_waiting (sound : g.Sound) (rest : g.advance? ready = none)
    (h : g.standing? c = some (key, .waiting f)) :
    ∃ d work, g.standing? d = some (key, .leading f work) := by
  cases idle_of_rest sound rest h with
  | waiting hs =>
    obtain ⟨d, hd⟩ := sound.led_of_pending key f (sound.flight_of_heard h hs)
    exact ⟨d, leading_of_leads sound rest hd⟩

/-! ## The keys for which somebody is at work -/

/-- The keys for which somebody is at work, one for each such caller. -/
def running (g : Gate α ω) : List String :=
  g.callers.toList.filterMap fun caller =>
    match caller.phase with
    | .leading _ _ => some caller.key
    | _ => none

theorem mem_running_iff :
    key ∈ g.running ↔ ∃ c f work, g.standing? c = some (key, .leading f work) := by
  simp only [running, List.mem_filterMap, Array.mem_toList_iff, Array.mem_iff_getElem?]
  constructor
  · rintro ⟨⟨k, work, phase⟩, ⟨c, hc⟩, hk⟩
    cases phase with
    | leading f work' =>
      obtain rfl := Option.some.inj hk
      exact ⟨c, f, work', standing?_of_callers hc⟩
    | _ => cases hk
  · rintro ⟨c, f, work, h⟩
    obtain ⟨work', hc⟩ := exists_callers_of_standing? h
    exact ⟨_, ⟨c, hc⟩, rfl⟩

/-- Nobody works for a key for which somebody else is at work. -/
theorem running_nodup (sound : g.Sound) : g.running.Nodup := by
  have key_of : ∀ {c : Nat} {caller : Caller α ω} {k : String}, g.callers[c]? = some caller →
      (match caller.phase with
        | .leading _ _ => some caller.key
        | _ => none) = some k → ∃ f, g.Leads c k f := by
    rintro c ⟨k', work, phase⟩ k hc hk
    cases phase with
    | leading f work' =>
      obtain rfl := Option.some.inj hk
      exact ⟨f, _, standing?_of_callers hc, rfl⟩
    | _ => cases hk
  unfold running List.Nodup
  -- Two callers at work for one key would both lead for it.
  rw [List.pairwise_filterMap, List.pairwise_iff_getElem]
  intro i j hi hj hij k hk k' hk' he
  subst he
  obtain ⟨f, hf⟩ := key_of (Array.getElem?_eq_getElem hi) hk
  obtain ⟨f', hf'⟩ := key_of (Array.getElem?_eq_getElem hj) hk'
  exact absurd (sound.leader_unique hf hf').1 (Nat.ne_of_lt hij)

/-- **At rest the keys with a record are those for which somebody is at work.** -/
theorem records_perm_running (sound : g.Sound) (rest : g.advance? ready = none) :
    (g.records.map Prod.fst).Perm g.running := by
  -- Neither list has duplicates, so it is enough that they have the same members.
  rw [List.perm_ext_iff_of_nodup sound.keys_nodup (running_nodup sound)]
  intro key
  rw [mem_running_iff, List.mem_map]
  constructor
  · rintro ⟨⟨k, f⟩, hr, rfl⟩
    obtain ⟨c, work, hc⟩ := (record_iff_leading sound rest).mp hr
    exact ⟨c, f, work, hc⟩
  · rintro ⟨c, f, work, hc⟩
    exact ⟨(key, f), (record_iff_leading sound rest).mpr ⟨c, work, hc⟩, rfl⟩

/-! ## The end -/

theorem pending_eq_zero_iff : g.pending = 0 ↔
    ∀ c key phase, g.standing? c = some (key, phase) → phase.isLive = false := by
  simp only [pending, List.length_eq_zero_iff, List.filter_eq_nil_iff, Array.mem_toList_iff,
    Array.mem_iff_getElem?, Bool.not_eq_true]
  constructor
  · intro h c key phase hc
    obtain ⟨work, hc⟩ := exists_callers_of_standing? hc
    exact h _ ⟨c, hc⟩
  · rintro h ⟨key, work, phase⟩ ⟨c, hc⟩
    exact h c key phase (standing?_of_callers hc)

/-- Once everybody is answered or dropped, no record is left. -/
theorem records_eq_nil (sound : g.Sound) (done : g.pending = 0) : g.records = [] := by
  refine List.eq_nil_iff_forall_not_mem.mpr fun ⟨key, f⟩ hr => ?_
  obtain ⟨c, phase, hc, hl⟩ := (sound.mem_records key f).mp hr
  have hd := pending_eq_zero_iff.mp done c key phase hc
  cases phase <;> simp [Phase.isLive, Phase.led?] at hd hl

/-- **No stranded waiter and no leaked record.** Whatever a run has brought, when nobody can move
the keys with a record are those for which somebody is at work, each once, and whoever waits waits
for the flight of somebody at work. A caller goes round once, and once more at most for each leader
that was dropped while it was pending; and when all are answered or dropped no record is left. -/
theorem no_stranding (run : Run step? (empty : Gate α ω) ms g) :
    (∀ ready, g.advance? ready = none →
      (g.records.map Prod.fst).Perm g.running ∧ g.running.Nodup ∧
        g.inFlight = g.running.length ∧
        ∀ c key f, g.standing? c = some (key, .waiting f) →
          ∃ d work, g.standing? d = some (key, .leading f work)) ∧
      (∀ c key phase, g.standing? c = some (key, phase) → rounds ms c ≤ 1 + losses ms key c) ∧
      (g.pending = 0 → g.inFlight = 0) := by
  have sound := sound_of_run run
  refine ⟨fun ready rest => ?_, fun c key phase hc => ?_, fun done => ?_⟩
  · have perm := records_perm_running sound rest
    refine ⟨perm, running_nodup sound, ?_, fun c key f hc => leading_of_waiting sound rest hc⟩
    rw [inFlight, ← perm.length_eq, List.length_map]
  · rw [Nat.add_comm]
    exact (rounds_bounds run hc).1
  · rw [inFlight, records_eq_nil sound done, List.length_nil]

/-- The leader of three is dropped, one of the two who waited takes over, and the other waits
again. -/
def takeover : List (Event Nat Unit) :=
  [.arrive "k" (), .arrive "k" (), .arrive "k" (), .join 0, .join 1, .join 2, .drop 0,
    .wake 2, .join 2, .wake 1, .join 1]

theorem no_stranding_takeover :
    (trail step? (empty : Gate Nat Unit) takeover).2.running = ["k"] ∧
      (trail step? (empty : Gate Nat Unit) takeover).2.inFlight = 1 ∧
      rounds (trail step? (empty : Gate Nat Unit) takeover).1 1 = 2 ∧
      losses (trail step? (empty : Gate Nat Unit) takeover).1 "k" 1 = 1 ∧
      rounds (trail step? (empty : Gate Nat Unit) takeover).1 1 ≤
        1 + losses (trail step? (empty : Gate Nat Unit) takeover).1 "k" 1 := by
  have h := no_stranding (run_trail step? (empty : Gate Nat Unit) takeover)
  refine ⟨rfl, ?_, rfl, rfl, h.2.1 1 "k" (.waiting 1) rfl⟩
  exact (h.1 (fun _ => none) rfl).2.2.1

end ReadThrough.Gate
