import Mathlib.Algebra.Order.BigOperators.Group.Finset
import ReadThrough.Proofs.Group.Failures

/-!
# Traffic at rest

Every step that callers take by themselves brings one of them nearer to where nothing is left to be
done, and nobody farther away from it. So whatever moves comes to rest, and the steps that a run is
given for this are enough. At rest whoever is still there waits for a source, and its limit is not
over, or it waits for somebody who does.

On a paused clock time passes only at rest: an event happens, and everything that follows from it
follows in the same moment.

## Main definitions

* `Traffic.Next w c key phase e`: what a caller does next by itself
* `Traffic.toMove t`: how often callers may still move
* `Traffic.Idle t phase`: where callers stand at rest
* `Traffic.turn? t x`: the traffic after an event and all that follows from it
* `Traffic.Paused ms`: time passes only while nobody is in the middle of a turn

## Main results

* `Traffic.toMove_lt`: whoever moves has fewer moves left
* `Traffic.rest_quiesce`: what moves comes to rest
* `Traffic.rest_iff_idle`: who is there at rest
* `Traffic.paused_of_turns`: a paused clock stops at states of rest
-/

namespace ReadThrough.Traffic

variable {t t' u : Traffic} {w : Surroundings} {c d f n : Nat} {key name : String} {bytes : Nat}
  {limit : Option Nat} {e : Event} {p q phase : Phase Outcome Load} {out : List Output}
  {ms : List (Moment Traffic Event)}

/-! ## What a caller does next -/

/-- What caller `c` for `key` does next by itself. -/
inductive Next (w : Surroundings) (c : Nat) (key : String) : Phase Outcome Load → Event → Prop where
  | join : Next w c key .arriving (.join c)
  | wake {f : Nat} : Next w c key (.waiting f) (.wake c)
  | lookAgain {f : Nat} : Next w c key (.leading f .fresh) (.lookAgain c (w.owner? key))
  | receive {f since : Nat} {side : Side} {outcome : Outcome} :
      Next w c key (.leading f (.asking side since)) (.receive c outcome)
  | hold {f since : Nat} {side : Side} : Next w c key (.leading f (.asking side since)) (.hold c)
  | expire {f since : Nat} {side : Side} :
      Next w c key (.leading f (.awaiting side since)) (.expire c)
  | publish {f : Nat} {outcome : Outcome} : Next w c key (.settled f outcome) (.publish c)
  | retire {f : Nat} {outcome : Outcome} : Next w c key (.published f outcome) (.retire c)

theorem Next.caller?_eq (h : Next w c key p e) : e.caller? = some c := by
  cases h <;> rfl

theorem exists_next_of_next? (h : t.next? w c = some e) :
    ∃ key p, t.gate.standing? c = some (key, p) ∧ Next w c key p e := by
  obtain ⟨⟨key, work, p⟩, hc, hp⟩ := Option.bind_eq_some_iff.mp h
  refine ⟨key, p, Gate.standing?_of_callers hc, ?_⟩
  dsimp only at hp
  split at hp
  · cases hp
    exact .join
  · cases hp
    exact .wake
  · cases hp
    exact .lookAgain
  · split at hp
    · cases hp
      exact .receive
    · cases hp
      exact .hold
  · cases hp
    exact .expire
  · cases hp
    exact .publish
  · cases hp
    exact .retire
  · cases hp
  · cases hp

/-- Whoever is neither answered nor dropped has a next step, if only it is possible. -/
theorem exists_next?_of_isLive (hc : t.gate.standing? c = some (key, p)) (hp : p.isLive = true) :
    ∃ e, t.next? w c = some e ∧ Next w c key p e := by
  obtain ⟨work, hcaller⟩ := Gate.exists_callers_of_standing? hc
  have some_next : ∃ e, t.next? w c = some e := by
    rw [next?, hcaller, Option.bind_some]
    dsimp only
    split
    · exact ⟨_, rfl⟩
    · exact ⟨_, rfl⟩
    · exact ⟨_, rfl⟩
    · split <;> exact ⟨_, rfl⟩
    · exact ⟨_, rfl⟩
    · exact ⟨_, rfl⟩
    · exact ⟨_, rfl⟩
    · cases hp
    · cases hp
  obtain ⟨e, he⟩ := some_next
  obtain ⟨k, q, hq, next⟩ := exists_next_of_next? he
  obtain ⟨rfl, rfl⟩ := Gate.standing?_inj hc hq
  exact ⟨e, he, next⟩

theorem exists_next_of_advance? (h : t.advance? w = some (t', out)) :
    ∃ c e, t.next? w c = some e ∧ t.step? e = some (t', out) := by
  obtain ⟨c, -, hc⟩ := List.exists_of_findSome?_eq_some h
  obtain ⟨e, he, hs⟩ := Option.bind_eq_some_iff.mp hc
  exact ⟨c, e, he, hs⟩

/-! ## Moves that are left -/

/-- How often a leader may still move: the loader may hold it after a peer had trouble. -/
def loadMovesLeft : Load → Nat
  | .fresh => 6
  | .asking (.peer _) _ => 5
  | .asking .loader _ => 4
  | .awaiting _ _ => 3

/-- How often a caller may still move: from a closed flight it joins another, which it may have to
lead. -/
def movesLeft (g : Gate Outcome Load) : Phase Outcome Load → Nat
  | .waiting f => if g.signal? f = some .closed then 8 else 1
  | .arriving => 7
  | .leading _ load => loadMovesLeft load
  | .settled _ _ => 2
  | .published _ _ => 1
  | .finished _ | .dropped => 0

/-- How often callers may still move. -/
def toMove (t : Traffic) : Nat :=
  ∑ c ∈ Finset.range t.gate.callers.size,
    (t.gate.standing? c).elim 0 fun x => movesLeft t.gate x.2

theorem loadMovesLeft_asking (side : Side) (since : Nat) :
    3 < loadMovesLeft (.asking side since) ∧ loadMovesLeft (.asking side since) < 6 := by
  cases side <;> simp [loadMovesLeft]

theorem movesLeft_le_eight (g : Gate Outcome Load) (p : Phase Outcome Load) :
    movesLeft g p ≤ 8 := by
  cases p with
  | waiting f =>
    rw [movesLeft]
    split <;> omega
  | leading f load =>
    rw [movesLeft]
    cases load with
    | asking side since =>
      have hlt := (loadMovesLeft_asking side since).2
      omega
    | _ => simp [loadMovesLeft]
  | _ => simp [movesLeft]

theorem toMove_le (t : Traffic) : t.toMove ≤ 9 * t.gate.callers.size := by
  have hsum : t.toMove ≤ ∑ _c ∈ Finset.range t.gate.callers.size, 9 := by
    apply Finset.sum_le_sum
    intro c _
    cases t.gate.standing? c with
    | none => exact Nat.zero_le 9
    | some x => exact Nat.le_succ_of_le (movesLeft_le_eight t.gate x.2)
  rw [Finset.sum_const_nat fun _ _ => rfl, Finset.card_range] at hsum
  omega

/-- As long as no flight is closed nobody gets more moves. -/
theorem movesLeft_le {g g' : Gate Outcome Load}
    (hclosed : ∀ f, g'.signal? f = some .closed → g.signal? f = some .closed)
    (p : Phase Outcome Load) : movesLeft g' p ≤ movesLeft g p := by
  cases p with
  | waiting f =>
    rw [movesLeft, movesLeft]
    split
    · next h => rw [if_pos (hclosed f h)]
    · split <;> omega
  | leading f load => exact Nat.le_refl (loadMovesLeft load)
  | _ => exact Nat.le_refl _

/-- Nothing but a drop closes a flight. -/
theorem Step.closed_before (h : Step t e t' out) (hne : ∀ c, e ≠ .drop c)
    (hf : t'.gate.signal? f = some .closed) : t.gate.signal? f = some .closed := by
  have stays {ge : Gate.Event Outcome Load} {gate : Gate Outcome Load} (hg : t.gate.Step ge gate)
      (hge : ∀ c, ge ≠ .drop c) (hf : gate.signal? f = some .closed) :
      t.gate.signal? f = some .closed := by
    obtain ⟨⟨k, signal⟩, hflight, hsignal⟩ := Option.map_eq_some_iff.mp hf
    obtain rfl : signal = .closed := hsignal
    rcases hg.flight hflight with hflight | ⟨hpending, -⟩ | ⟨change, -⟩
    · exact Gate.signal?_of_flights hflight
    · cases hpending
    · cases change with
      | abandon hc => exact absurd rfl (hge _)
  cases h with
  | join hg => exact stays hg (by simp) hf
  | publish hg => exact stays hg (by simp) hf
  | retire hg => exact stays hg (by simp) hf
  | wake hg => exact stays hg (by simp) hf
  | drop hg => exact absurd rfl (hne _)
  | _ => exact hf

/-- The next step of a caller takes one of its moves. -/
theorem Next.movesLeft_lt {g : Gate Outcome Load} (next : Next w c key p e)
    (turn : Turn t c key e p q) (hboard : ∀ f, q = .waiting f → g.signal? f ≠ some .closed) :
    movesLeft g q < movesLeft t.gate p := by
  cases next with
  | join =>
    cases turn with
    | board hr => simp [movesLeft, hboard _ rfl]
    | lead hr => simp [movesLeft, loadMovesLeft]
  | wake =>
    cases turn with
    | hear hs =>
      rw [movesLeft, movesLeft]
      split <;> omega
    | startOver hs => simp [movesLeft, hs]
  | lookAgain =>
    cases turn with
    | found hv => simp [movesLeft, loadMovesLeft]
    | ask hv => exact (loadMovesLeft_asking _ _).2
  | receive =>
    cases turn with
    | settle ha => exact Nat.lt_of_succ_lt (loadMovesLeft_asking _ _).1
    | fallBack ha =>
      -- The loader is asked next only if it was a peer that answered.
      cases ha
      simp [movesLeft, loadMovesLeft]
  | hold =>
    cases turn with
    | hold => exact (loadMovesLeft_asking _ _).1
  | expire =>
    cases turn with
    | expire hl ho => simp [movesLeft, loadMovesLeft]
  | publish =>
    cases turn with
    | publish => simp [movesLeft]
  | retire =>
    cases turn with
    | retire => simp [movesLeft]

/-- **Whoever moves has fewer moves left**, and everybody else as many as before. -/
theorem toMove_lt (sound : t.Sound) (hn : t.next? w c = some e)
    (hs : t.step? e = some (t', out)) : t'.toMove < t.toMove := by
  have step := step_of_step? hs
  obtain ⟨key, p, hp, next⟩ := exists_next_of_next? hn
  have hcaller := next.caller?_eq
  have hsize : t'.gate.callers.size = t.gate.callers.size := by
    rcases step.callers_size with hsize | ⟨⟨k, rfl⟩, -⟩
    · exact hsize
    · cases hcaller
  have hclosed : ∀ f, t'.gate.signal? f = some .closed → t.gate.signal? f = some .closed := by
    intro f
    apply step.closed_before
    rintro d rfl
    cases next
  have hlt := Gate.lt_size_of_standing? hp
  -- The caller takes a turn, because the step is about it.
  obtain ⟨q, hq, turn⟩ : ∃ q, t'.gate.standing? c = some (key, q) ∧ Turn t c key e p q := by
    rcases step.standing_after sound hp with ⟨-, hne⟩ | h
    · exact absurd hcaller hne
    · exact h
  have hmoved : movesLeft t'.gate q < movesLeft t.gate p := by
    apply next.movesLeft_lt turn
    rintro f rfl hf
    -- Whoever joins a flight joins one that has a leader, and such a flight is not closed.
    cases turn with
    | board hr =>
      obtain ⟨d, hd⟩ := sound.gate.lookup_eq_some_iff.mp hr
      obtain ⟨⟨k, signal⟩, hflight, hsignal⟩ := Option.map_eq_some_iff.mp (hclosed f hf)
      obtain rfl : signal = .closed := hsignal
      obtain rfl := sound.gate.key_of_leads hd hflight
      exact sound.gate.not_closed_of_leads hd hflight
  unfold toMove
  rw [hsize]
  apply Finset.sum_lt_sum
  · intro d hd
    by_cases hdc : d = c
    · subst hdc
      rw [hp, hq]
      exact Nat.le_of_lt hmoved
    · have hsame : t'.gate.standing? d = t.gate.standing? d := by
        cases hstands : t.gate.standing? d with
        | none =>
          obtain ⟨caller, hcaller⟩ : ∃ x, t.gate.callers[d]? = some x :=
            ⟨_, Array.getElem?_eq_getElem (Finset.mem_range.mp hd)⟩
          rw [Gate.standing?_of_callers hcaller] at hstands
          cases hstands
        | some x =>
          apply step.standing_of_ne sound hstands
          rw [hcaller]
          exact fun he => hdc (Option.some.inj he).symm
      rw [hsame]
      cases t.gate.standing? d with
      | none => exact Nat.le_refl 0
      | some x => exact movesLeft_le hclosed x.2
  · refine ⟨c, Finset.mem_range.mpr hlt, ?_⟩
    rw [hp, hq]
    exact hmoved

/-! ## Coming to rest -/

theorem rest_runSteps (sound : t.Sound) (hle : t.toMove ≤ n) :
    (t.runSteps w n).1.advance? w = none := by
  induction n generalizing t with
  | zero =>
    show t.advance? w = none
    cases ha : t.advance? w with
    | none => rfl
    | some x =>
      obtain ⟨c, e, hn, hs⟩ := exists_next_of_advance? ha
      have hlt := toMove_lt sound hn hs
      omega
  | succ n ih =>
    rw [runSteps]
    cases ha : t.advance? w with
    | none => exact ha
    | some x =>
      obtain ⟨c, e, hn, hs⟩ := exists_next_of_advance? ha
      have hlt := toMove_lt sound hn hs
      exact ih (sound.step (step_of_step? hs)) (by omega)

/-- **What moves comes to rest.** -/
theorem rest_quiesce (sound : t.Sound) : (t.quiesce w).1.advance? w = none :=
  rest_runSteps sound t.toMove_le

/-! ## Who is there at rest -/

/-- Where callers stand at rest. -/
inductive Idle (t : Traffic) : Phase Outcome Load → Prop where
  /-- A source keeps the leader waiting, and the limit is not over. -/
  | held {f since : Nat} {side : Side} (hno : t.isOver since = false) :
      Idle t (.leading f (.awaiting side since))
  /-- The outcome is still to come. -/
  | waiting {f : Nat} (hs : t.gate.signal? f = some .pending) : Idle t (.waiting f)
  /-- The caller has its answer. -/
  | finished {outcome : Outcome} : Idle t (.finished outcome)
  /-- The caller was dropped. -/
  | dropped : Idle t .dropped

/-- A leader can look again. -/
theorem exists_step_of_fresh (hc : t.gate.standing? c = some (key, .leading f .fresh))
    (owner : Option String) : ∃ x, t.step? (.lookAgain c owner) = some x := by
  have hlead : t.leading? c = some (key, .fresh) := leading?_eq_some_iff.mpr ⟨f, hc⟩
  show ∃ x, t.lookAgain? c owner = some x
  unfold lookAgain?
  simp only [hlead, Option.bind_eq_bind, Option.bind_some]
  rw [← Prod.eta (t.group.lookAgain key)]
  cases (t.group.lookAgain key).2 with
  | none => exact ⟨_, by simp only [proceed?_of_leading hc, Option.bind_some]; rfl⟩
  | some value => exact ⟨_, by simp only [settle?_of_leading hc, Option.bind_some]; rfl⟩

/-- A source that is asked can answer. -/
theorem exists_step_of_asked {load : Load} {side : Side} {since : Nat}
    (hc : t.gate.standing? c = some (key, .leading f load)) (ha : load.asked? = some (side, since))
    (answer : Outcome) : ∃ x, t.step? (.receive c answer) = some x := by
  have hlead : t.leading? c = some (key, load) := leading?_eq_some_iff.mpr ⟨f, hc⟩
  show ∃ x, t.receive? c answer = some x
  unfold receive?
  simp only [hlead, ha, Option.bind_eq_bind, Option.bind_some]
  rw [← Prod.eta (t.group.receive key side answer)]
  cases (t.group.receive key side answer).2 with
  | none => exact ⟨_, by simp only [proceed?_of_leading hc, Option.bind_some]; rfl⟩
  | some outcome => exact ⟨_, by simp only [settle?_of_leading hc, Option.bind_some]; rfl⟩

/-- The next step of a caller is possible, unless the caller is idle. -/
theorem Next.possible_or_idle (next : Next w c key p e) (sound : t.Sound)
    (hc : t.gate.standing? c = some (key, p)) : (∃ x, t.step? e = some x) ∨ Idle t p := by
  obtain ⟨work, hcaller⟩ := Gate.exists_callers_of_standing? hc
  cases next with
  | join =>
    left
    simp only [step?, Gate.join?, hcaller]
    cases t.gate.records.lookup key <;> exact ⟨_, rfl⟩
  | @wake f =>
    obtain ⟨signal, hflight⟩ := sound.gate.flight_of_waiting c key f hc
    have hs := Gate.signal?_of_flights hflight
    cases signal with
    | pending => exact .inr (.waiting hs)
    | sent outcome =>
      left
      simp only [step?, Gate.wake?, hcaller, hs]
      exact ⟨_, rfl⟩
    | closed =>
      left
      simp only [step?, Gate.wake?, hcaller, hs]
      exact ⟨_, rfl⟩
  | lookAgain => exact .inl (exists_step_of_fresh hc _)
  | receive => exact .inl (exists_step_of_asked hc rfl _)
  | hold =>
    left
    simp only [step?, hold?, leading?_eq_some_iff.mpr ⟨_, hc⟩, proceed?_of_leading hc]
    exact ⟨_, rfl⟩
  | @expire f since side =>
    cases ho : t.isOver since with
    | false => exact .inr (.held ho)
    | true =>
      -- What is over has a limit.
      cases hl : t.group.limit with
      | none => simp [isOver, hl] at ho
      | some limit =>
        left
        simp only [step?, expire?, leading?_eq_some_iff.mpr ⟨_, hc⟩, hl, ho, if_true,
          settle?_of_leading hc, Option.bind_eq_bind, Option.bind_some]
        exact ⟨_, rfl⟩
  | publish =>
    left
    simp only [step?, Gate.publish?, hcaller]
    exact ⟨_, rfl⟩
  | retire =>
    left
    simp only [step?, Gate.retire?, hcaller]
    exact ⟨_, rfl⟩

/-- The next step of an idle caller is not possible. -/
theorem Next.step?_eq_none (next : Next w c key p e) (hc : t.gate.standing? c = some (key, p))
    (idle : Idle t p) : t.step? e = none := by
  obtain ⟨work, hcaller⟩ := Gate.exists_callers_of_standing? hc
  cases idle with
  | held hno =>
    cases next with
    | expire =>
      simp only [step?, expire?, leading?_eq_some_iff.mpr ⟨_, hc⟩, Option.bind_eq_bind,
        Option.bind_some]
      cases t.group.limit with
      | none => rfl
      | some limit =>
        rw [Option.bind_some, if_neg (Bool.eq_false_iff.mp hno)]
  | waiting hs =>
    cases next with
    | wake => simp only [step?, Gate.wake?, hcaller, hs, Option.map_none]
  | finished => cases next
  | dropped => cases next

/-- **Who is there at rest**, whatever the surroundings are. -/
theorem rest_iff_idle (sound : t.Sound) : t.advance? w = none ↔
    ∀ c key p, t.gate.standing? c = some (key, p) → Idle t p := by
  constructor
  · intro rest c key p hc
    cases hp : p.isLive with
    | false =>
      cases p with
      | finished outcome => exact .finished
      | dropped => exact .dropped
      | _ => cases hp
    | true =>
      obtain ⟨e, he, next⟩ := exists_next?_of_isLive (w := w) hc hp
      rcases next.possible_or_idle sound hc with ⟨x, hx⟩ | idle
      · have stuck := List.findSome?_eq_none_iff.mp rest c
          (List.mem_range.mpr (Gate.lt_size_of_standing? hc))
        rw [he, Option.bind_some, hx] at stuck
        cases stuck
      · exact idle
  · intro idle
    apply List.findSome?_eq_none_iff.mpr
    intro c _
    cases hn : t.next? w c with
    | none => rfl
    | some e =>
      obtain ⟨key, p, hc, next⟩ := exists_next_of_next? hn
      exact next.step?_eq_none hc (idle c key p hc)

/-! ## Runs on a paused clock -/

/-- Whatever moves until nothing does, moves by steps of callers. -/
theorem exists_moves_runSteps (w : Surroundings) (n : Nat) (t : Traffic) :
    ∃ ms, Run after? t ms (t.runSteps w n).1 ∧
      ∀ m ∈ ms, ∃ c, m.before.next? w c = some m.event := by
  induction n generalizing t with
  | zero => exact ⟨[], .nil, fun m hm => absurd hm List.not_mem_nil⟩
  | succ n ih =>
    rw [runSteps]
    cases ha : t.advance? w with
    | none => exact ⟨[], .nil, fun m hm => absurd hm List.not_mem_nil⟩
    | some x =>
      obtain ⟨c, e, hn, hs⟩ := exists_next_of_advance? ha
      obtain ⟨ms, run, moves⟩ := ih x.1
      refine ⟨_, run.cons (by rw [after?, hs, Option.map_some]), ?_⟩
      intro m hm
      rcases List.mem_cons.mp hm with rfl | hm
      · exact ⟨c, hn⟩
      · exact moves m hm

/-- An event, and then steps of callers. -/
theorem exists_moves_of_play (h : t.play w e = some (t', out)) :
    ∃ v ms, t.after? e = some v ∧ (v.quiesce w).1 = t' ∧ Run after? v ms t' ∧
      ∀ m ∈ ms, ∃ c, m.before.next? w c = some m.event := by
  obtain ⟨⟨v, shown⟩, he, hu⟩ := Option.map_eq_some_iff.mp h
  obtain ⟨ms, run, moves⟩ := exists_moves_runSteps w (9 * v.gate.callers.size) v
  obtain ⟨rfl, -⟩ := Prod.mk.inj hu
  exact ⟨v, ms, by rw [after?, he, Option.map_some], rfl, run, moves⟩

theorem exists_run_of_play (h : t.play w e = some (t', out)) : ∃ ms, Run after? t ms t' := by
  obtain ⟨v, ms, hv, -, run, -⟩ := exists_moves_of_play h
  exact ⟨_, run.cons hv⟩

/-- The traffic after an event and all that follows from it. -/
def turn? (t : Traffic) (x : Surroundings × Event) : Option Traffic :=
  (t.play x.1 x.2).map Prod.fst

/-- Time passes only while everybody is at an await. -/
def Paused (ms : List (Moment Traffic Event)) : Prop :=
  ∀ m ∈ ms, ∀ n, m.event = .tick n → ∀ c key phase,
    m.before.gate.standing? c = some (key, phase) → parked phase = true

theorem Idle.parked_eq (idle : Idle t p) : parked p = true := by
  cases idle <;> rfl

/-- **A paused clock stops at states of rest**: there everybody is idle, and time passes only there,
among the steps that a run is given and all those that follow from them. -/
theorem paused_of_turns {xs : List (Moment Traffic (Surroundings × Event))}
    (run : Run turn? (ofGroup (.create name bytes limit)) xs t) :
    (∀ w, t.advance? w = none) ∧
      ∃ ms, Run after? (ofGroup (.create name bytes limit)) ms t ∧ Paused ms ∧
        ∀ x ∈ xs, ∃ m ∈ ms, m.before = x.before ∧ m.event = x.event.2 := by
  induction run with
  | nil =>
    exact ⟨fun _ => rfl, [], .nil, fun m hm => absurd hm List.not_mem_nil,
      fun x hx => absurd hx List.not_mem_nil⟩
  | @snoc xs t u x run he ih =>
    obtain ⟨rest, ms, before, paused, given⟩ := ih
    obtain ⟨⟨u, out⟩, hplay, rfl⟩ := Option.map_eq_some_iff.mp he
    obtain ⟨v, ms', hv, hquiet, after, moves⟩ := exists_moves_of_play hplay
    have sound := sound_of_run before
    have whole := before.append (after.cons hv)
    have idle := (rest_iff_idle sound).mp (rest x.1)
    constructor
    · -- The steps that a run is given bring it to rest, in these surroundings and in all others.
      have here : u.advance? x.1 = none := by
        rw [← hquiet]
        exact rest_quiesce (sound.step (step_of_after? hv))
      intro w
      exact (rest_iff_idle (sound_of_run whole)).mpr ((rest_iff_idle (sound_of_run whole)).mp here)
    · refine ⟨_, whole, ?_, ?_⟩
      · intro m hm n htick c key phase hc
        rcases List.mem_append.mp hm with hm | hm
        · exact paused m hm n htick c key phase hc
        · rcases List.mem_cons.mp hm with rfl | hm
          · exact (idle c key phase hc).parked_eq
          · obtain ⟨d, hd⟩ := moves m hm
            obtain ⟨k, p, -, next⟩ := exists_next_of_next? hd
            rw [htick] at next
            cases next
      · intro y hy
        rcases List.mem_append.mp hy with hy | hy
        · obtain ⟨m, hm, hbefore, hevent⟩ := given y hy
          exact ⟨m, List.mem_append_left _ hm, hbefore, hevent⟩
        · obtain rfl := List.mem_singleton.mp hy
          exact ⟨⟨t, x.2, v⟩, by simp, rfl, rfl⟩

end ReadThrough.Traffic
