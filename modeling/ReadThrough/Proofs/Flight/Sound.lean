import ReadThrough.Proofs.Flight.Steps

/-!
# The invariant of the gate

In every state that a gate comes to, its records are those of the flights that have a leader, no key
has two of them, no flight has two leaders, and a flight that promises an outcome has someone to
deliver it.

## Main definitions

* `Gate.Leads g c key f`: caller `c` leads flight `f` for `key`
* `Gate.Sound g`: the invariant

## Main results

* `Gate.Sound.step`: every step keeps the invariant
* `Gate.Sound.leader_unique`: a key has one leader at most
-/

namespace ReadThrough.Gate

variable {α ω : Type} {g g' : Gate α ω} {c d f : Nat} {key : String} {p q : Phase α ω}

/-- Caller `c` leads flight `f` for `key`, from its beginning until its record is retired. -/
def Leads (g : Gate α ω) (c : Nat) (key : String) (f : Nat) : Prop :=
  ∃ phase, g.standing? c = some (key, phase) ∧ phase.led? = some f

/-- What holds of a gate between any two steps. -/
structure Sound (g : Gate α ω) : Prop where
  /-- No key has two records. -/
  keys_nodup : (g.records.map Prod.fst).Nodup
  /-- The records are those of the flights that have a leader. -/
  mem_records : ∀ key f, (key, f) ∈ g.records ↔ ∃ c, g.Leads c key f
  /-- No flight has two leaders. -/
  leads_inj : ∀ c d key key' f, g.Leads c key f → g.Leads d key' f → c = d
  /-- A leader's flight is for the leader's key, and tells what the leader has published. -/
  flight_of_led : ∀ c key phase f, g.standing? c = some (key, phase) → phase.led? = some f →
    ∃ signal, phase.signal? = some signal ∧ g.flights[f]? = some ⟨key, signal⟩
  /-- A caller waits for a flight for its own key. -/
  flight_of_waiting : ∀ c key f, g.standing? c = some (key, .waiting f) →
    ∃ signal, g.flights[f]? = some ⟨key, signal⟩
  /-- A flight whose outcome is still to come has a leader. -/
  led_of_pending : ∀ key f, g.flights[f]? = some ⟨key, .pending⟩ → ∃ c, g.Leads c key f

namespace Sound

theorem empty : (Gate.empty : Gate α ω).Sound where
  keys_nodup := List.nodup_nil
  mem_records key f := by simp [Gate.empty, Leads, standing?]
  leads_inj c d key key' f := by simp [Leads]
  flight_of_led c key phase f := by simp
  flight_of_waiting c key f := by simp
  led_of_pending key f := by simp [Gate.empty]

/-! ## What the invariant says about leaders and records -/

theorem lookup_eq_some_iff (h : g.Sound) :
    g.records.lookup key = some f ↔ ∃ c, g.Leads c key f := by
  rw [← h.mem_records key f]
  -- As no key has two records, the first one found for a key is the only one.
  have hn := h.keys_nodup
  generalize g.records = l at hn ⊢
  induction l with
  | nil => simp
  | cons r l ih =>
    obtain ⟨k, f'⟩ := r
    rw [List.map_cons, List.nodup_cons] at hn
    by_cases hk : key = k
    · subst hk
      have hno : (key, f) ∉ l := fun hm =>
        hn.1 (List.mem_map.mpr ⟨_, hm, rfl⟩)
      simp [hno, eq_comm]
    · rw [List.lookup_cons, beq_eq_false_iff_ne.mpr hk, List.mem_cons]
      simp [ih hn.2, hk]

theorem lookup_eq_none_iff (h : g.Sound) :
    g.records.lookup key = none ↔ ∀ c f, ¬ g.Leads c key f := by
  rw [Option.eq_none_iff_forall_ne_some]
  constructor
  · intro hn c f hl
    exact hn f (h.lookup_eq_some_iff.mpr ⟨c, hl⟩)
  · intro hn f hf
    obtain ⟨c, hl⟩ := h.lookup_eq_some_iff.mp hf
    exact hn c f hl

/-- **A key has one leader at most.** -/
theorem leader_unique (h : g.Sound) {f' : Nat} (hc : g.Leads c key f) (hd : g.Leads d key f') :
    c = d ∧ f = f' := by
  have hf := h.lookup_eq_some_iff.mpr ⟨c, hc⟩
  have hf' := h.lookup_eq_some_iff.mpr ⟨d, hd⟩
  obtain rfl := Option.some.inj (hf.symm.trans hf')
  exact ⟨h.leads_inj _ _ _ _ _ hc hd, rfl⟩

/-- A leader's flight is for the leader's key. -/
theorem key_of_leads (h : g.Sound) {k : String} {signal : Signal α} (hc : g.Leads c key f)
    (hf : g.flights[f]? = some ⟨k, signal⟩) : k = key := by
  obtain ⟨phase, hs, hl⟩ := hc
  obtain ⟨signal', -, hf'⟩ := h.flight_of_led _ _ _ _ hs hl
  exact (flights_inj hf hf').1

/-- A leader's flight tells what the leader has published. -/
theorem flight_of_signal (h : g.Sound) {signal : Signal α} (hc : g.standing? c = some (key, p))
    (hl : p.led? = some f) (hs : p.signal? = some signal) :
    g.flights[f]? = some ⟨key, signal⟩ := by
  obtain ⟨signal', hs', hf⟩ := h.flight_of_led c key p f hc hl
  obtain rfl := Option.some.inj (hs.symm.trans hs')
  exact hf

/-- What a waiting caller learns is told by a flight for its own key. -/
theorem flight_of_heard (h : g.Sound) {signal : Signal α}
    (hc : g.standing? c = some (key, .waiting f)) (hs : g.signal? f = some signal) :
    g.flights[f]? = some ⟨key, signal⟩ := by
  obtain ⟨signal', hf⟩ := h.flight_of_waiting c key f hc
  obtain rfl := Option.some.inj ((signal?_of_flights hf).symm.trans hs)
  exact hf

theorem flight_lt (h : g.Sound) (hc : g.Leads c key f) : f < g.flights.size := by
  obtain ⟨phase, hs, hl⟩ := hc
  obtain ⟨signal, -, hf⟩ := h.flight_of_led _ _ _ _ hs hl
  exact (Array.getElem?_eq_some_iff.mp hf).1

/-- A flight that has a leader is not closed. -/
theorem not_closed_of_leads (h : g.Sound) (hc : g.Leads c key f) :
    g.flights[f]? ≠ some ⟨key, .closed⟩ := by
  obtain ⟨phase, hs, hl⟩ := hc
  obtain ⟨signal, hs, hf⟩ := h.flight_of_led _ _ _ _ hs hl
  intro hc
  obtain ⟨-, rfl⟩ := flights_inj hf hc
  cases phase <;> simp [Phase.signal?] at hs

/-- Only the signal of a flight whose outcome is still to come changes. -/
theorem pending_of_change (h : g.Sound) {e : Event α ω} {signal : Signal α}
    (hs : Change g f e signal) : g.signal? f = some .pending := by
  cases hs with
  | publish hc => exact signal?_of_flights (h.flight_of_signal hc rfl rfl)
  | abandon hc => exact signal?_of_flights (h.flight_of_signal hc rfl rfl)

/-- A flight that was published or closed stays so. -/
theorem flight_final (h : g.Sound) {e : Event α ω} (hs : Step g e g') {signal : Signal α}
    (hf : g.flights[f]? = some ⟨key, signal⟩) (hne : signal ≠ .pending) :
    g'.flights[f]? = some ⟨key, signal⟩ := by
  rcases hs.flight_after hf with hf' | ⟨signal', -, change⟩
  · exact hf'
  · have hp := (signal?_of_flights hf).symm.trans (h.pending_of_change change)
    exact absurd (Option.some.inj hp) hne

/-! ## Steps keep the invariant -/

/-- A caller who takes on another phase, with the same lead and the same promise to the members of
its flight, keeps the invariant. -/
theorem setPhase (h : g.Sound) (hc : g.standing? c = some (key, p)) (hl : q.led? = p.led?)
    (hs : q.signal? = p.signal?)
    (hw : ∀ f, q = .waiting f → ∃ signal, g.flights[f]? = some ⟨key, signal⟩) :
    (g.setPhase c q).Sound := by
  -- Everybody leads what it led before, `c` included.
  have leads : ∀ d k f, (g.setPhase c q).Leads d k f ↔ g.Leads d k f := by
    intro d k f
    simp only [Leads, standing?_setPhase]
    split
    · rename_i hd
      subst hd
      simp [hc, hl]
    · rfl
  refine ⟨h.keys_nodup, fun k f => ?_, fun d d' k k' f hd hd' => ?_, fun d k phase f hd hf => ?_,
    fun d k f hd => ?_, fun k f hf => ?_⟩
  · simp only [leads, records_setPhase]
    exact h.mem_records k f
  · exact h.leads_inj d d' k k' f ((leads ..).mp hd) ((leads ..).mp hd')
  · rcases standing_of_setPhase hc hd with ⟨-, hd⟩ | ⟨rfl, rfl, rfl⟩
    · exact h.flight_of_led d k phase f hd hf
    · rw [hs]
      exact h.flight_of_led c key p f hc (hl ▸ hf)
  · rcases standing_of_setPhase hc hd with ⟨-, hd⟩ | ⟨rfl, rfl, hq⟩
    · exact h.flight_of_waiting d k f hd
    · exact hw f hq
  · obtain ⟨d, hd⟩ := h.led_of_pending k f hf
    exact ⟨d, (leads ..).mpr hd⟩

theorem arrive (h : g.Sound) (key : String) (work : ω) : (g.arrive key work).Sound := by
  -- Whoever comes leads nothing yet.
  have leads : ∀ c k f, (g.arrive key work).Leads c k f ↔ g.Leads c k f := by
    intro c k f
    simp only [Leads, standing?_arrive]
    split
    · rename_i hc
      subst hc
      simp [standing?_size, Phase.led?]
    · rfl
  refine ⟨h.keys_nodup, fun k f => ?_, fun d d' k k' f hd hd' => ?_, fun d k phase f hd hf => ?_,
    fun d k f hd => ?_, fun k f hf => ?_⟩
  · simp only [leads]
    exact h.mem_records k f
  · exact h.leads_inj d d' k k' f ((leads ..).mp hd) ((leads ..).mp hd')
  · rw [standing?_arrive] at hd
    split at hd
    · cases hd
      cases hf
    · exact h.flight_of_led d k phase f hd hf
  · rw [standing?_arrive] at hd
    split at hd
    · cases hd
    · exact h.flight_of_waiting d k f hd
  · obtain ⟨d, hd⟩ := h.led_of_pending k f hf
    exact ⟨d, (leads ..).mpr hd⟩

/-- A new flight, with its leader, keeps the invariant. -/
theorem lead (h : g.Sound) {work : ω} (hc : g.standing? c = some (key, .arriving))
    (hr : g.records.lookup key = none) :
    ((g.takeOff key).setPhase c (.leading g.flights.size work)).Sound := by
  -- Everybody leads what it led before, and `c` leads the new flight, the last of all.
  have leads : ∀ d k f, ((g.takeOff key).setPhase c (.leading g.flights.size work)).Leads d k f ↔
      d = c ∧ k = key ∧ f = g.flights.size ∨ g.Leads d k f := by
    intro d k f
    simp only [Leads, standing?_setPhase, standing?_takeOff]
    split
    · rename_i hd
      subst hd
      simp [hc, Phase.led?, eq_comm]
    · rename_i hd
      simp [Ne.symm hd]
  have old : ∀ d k f, g.Leads d k f → f < g.flights.size := fun d k f hd => h.flight_lt hd
  have flights : ∀ f, ((g.takeOff key).setPhase c (.leading g.flights.size work)).flights[f]? =
      if f = g.flights.size then some ⟨key, .pending⟩ else g.flights[f]? := by
    intro f
    simp only [flights_setPhase, takeOff, Array.getElem?_push]
  have flight_of_old : ∀ {k : String} {f : Nat} {signal : Signal α},
      g.flights[f]? = some ⟨k, signal⟩ →
        ((g.takeOff key).setPhase c (.leading g.flights.size work)).flights[f]? =
          some ⟨k, signal⟩ := by
    intro k f signal hf
    have hlt := (Array.getElem?_eq_some_iff.mp hf).1
    rw [flights, if_neg (by omega), hf]
  refine ⟨?_, fun k f => ?_, fun d d' k k' f hd hd' => ?_, fun d k phase f hd hf => ?_,
    fun d k f hd => ?_, fun k f hf => ?_⟩
  · simp only [records_setPhase, takeOff, List.map_cons, List.nodup_cons]
    refine ⟨fun hm => ?_, h.keys_nodup⟩
    obtain ⟨⟨k, f⟩, hf, rfl⟩ := List.mem_map.mp hm
    obtain ⟨d, hd⟩ := (h.mem_records _ _).mp hf
    exact h.lookup_eq_none_iff.mp hr d f hd
  · simp only [leads]
    rw [exists_or, ← h.mem_records]
    simp [takeOff]
  · rw [leads] at hd hd'
    rcases hd with ⟨rfl, -, rfl⟩ | hd <;> rcases hd' with ⟨rfl, -, hf⟩ | hd'
    · rfl
    · exact absurd (old _ _ _ hd') (by omega)
    · exact absurd (old _ _ _ hd) (by omega)
    · exact h.leads_inj d d' k k' f hd hd'
  · rcases standing_of_setPhase (g := g.takeOff key) hc hd with ⟨-, hd⟩ | ⟨rfl, rfl, rfl⟩
    · obtain ⟨signal, hs, hf⟩ := h.flight_of_led d k phase f hd hf
      exact ⟨signal, hs, flight_of_old hf⟩
    · obtain rfl := Option.some.inj hf
      exact ⟨.pending, rfl, by rw [flights, if_pos rfl]⟩
  · rcases standing_of_setPhase (g := g.takeOff key) hc hd with ⟨-, hd⟩ | ⟨-, -, hq⟩
    · obtain ⟨signal, hf⟩ := h.flight_of_waiting d k f hd
      exact ⟨signal, flight_of_old hf⟩
    · cases hq
  · rw [flights] at hf
    simp only [leads]
    split at hf
    · rename_i hsize
      simp only [Option.some.injEq, Flight.mk.injEq, and_true] at hf
      exact ⟨c, .inl ⟨rfl, hf.symm, hsize⟩⟩
    · obtain ⟨d, hd⟩ := h.led_of_pending k f hf
      exact ⟨d, .inr hd⟩

/-- A leader who publishes its outcome keeps the invariant. -/
theorem publish (h : g.Sound) {outcome : α} (hc : g.standing? c = some (key, .settled f outcome)) :
    ((g.setSignal f (.sent outcome)).setPhase c (.published f outcome)).Sound := by
  have hlc : g.Leads c key f := ⟨_, hc, rfl⟩
  -- Everybody leads what it led before; only what the members of the flight can learn changes.
  have leads : ∀ d k f', ((g.setSignal f (.sent outcome)).setPhase c (.published f outcome)).Leads
      d k f' ↔ g.Leads d k f' := by
    intro d k f'
    simp only [Leads, standing?_setPhase, standing?_setSignal]
    split
    · rename_i hd
      subst hd
      simp [hc, Phase.led?]
    · rfl
  refine ⟨h.keys_nodup, fun k f' => ?_, fun d d' k k' f' hd hd' => ?_,
    fun d k phase f' hd hf => ?_, fun d k f' hd => ?_, fun k f' hf => ?_⟩
  · simp only [leads]
    exact h.mem_records k f'
  · exact h.leads_inj d d' k k' f' ((leads ..).mp hd) ((leads ..).mp hd')
  · rw [flights_setPhase, getElem?_flights_setSignal]
    rcases standing_of_setPhase (g := g.setSignal f (.sent outcome)) hc hd with
      ⟨hcd, hd⟩ | ⟨rfl, rfl, rfl⟩
    · -- Any other leader leads another flight.
      have hne : f ≠ f' := by
        rintro rfl
        exact hcd (h.leads_inj _ _ _ _ _ hlc ⟨_, hd, hf⟩)
      rw [if_neg hne]
      exact h.flight_of_led d k phase f' hd hf
    · obtain rfl := Option.some.inj hf
      have hpending := h.flight_of_signal hc rfl rfl
      exact ⟨.sent outcome, rfl, by simp [hpending]⟩
  · rw [flights_setPhase, getElem?_flights_setSignal]
    rcases standing_of_setPhase (g := g.setSignal f (.sent outcome)) hc hd with
      ⟨-, hd⟩ | ⟨-, -, hq⟩
    · obtain ⟨signal, hf⟩ := h.flight_of_waiting d k f' hd
      split <;> simp [hf]
    · cases hq
  · rw [flights_setPhase, getElem?_flights_setSignal] at hf
    split at hf
    · obtain ⟨fl, -, he⟩ := Option.map_eq_some_iff.mp hf
      simp at he
    · obtain ⟨d, hd⟩ := h.led_of_pending k f' hf
      exact ⟨d, (leads ..).mpr hd⟩

/-- A leader who gives up its lead for good keeps the invariant, if its flight loses its record and
promises nothing any more. -/
theorem land (h : g.Sound) {signal : Signal α} (hc : g.standing? c = some (key, p))
    (hl : p.led? = some f) (hq : q.led? = none) (hw : ∀ f, q ≠ .waiting f)
    (hs : signal ≠ .pending) :
    (((g.forget key f).setSignal f signal).setPhase c q).Sound := by
  have hlc : g.Leads c key f := ⟨_, hc, hl⟩
  -- All but `c` lead what they led before, and the record that goes is that of `c`.
  have leads : ∀ d k f', (((g.forget key f).setSignal f signal).setPhase c q).Leads d k f' ↔
      g.Leads d k f' ∧ d ≠ c := by
    intro d k f'
    simp only [Leads, standing?_setPhase, standing?_setSignal, standing?_forget]
    split
    · rename_i hd
      subst hd
      simp [hc, hq]
    · rename_i hd
      simp [Ne.symm hd]
  have only : ∀ d k f', g.Leads d k f' → (d = c ↔ (k, f') = (key, f)) := by
    intro d k f' hd
    constructor
    · rintro rfl
      obtain ⟨p', hd, hf'⟩ := hd
      obtain ⟨rfl, rfl⟩ := standing?_inj hc hd
      rw [Option.some.inj (hl.symm.trans hf')]
    · intro he
      obtain ⟨rfl, rfl⟩ := Prod.mk.inj he
      exact h.leads_inj _ _ _ _ _ hd hlc
  refine ⟨?_, fun k f' => ?_, fun d d' k k' f' hd hd' => ?_,
    fun d k phase f' hd hf => ?_, fun d k f' hd => ?_, fun k f' hf => ?_⟩
  · exact h.keys_nodup.sublist (List.filter_sublist.map _)
  · rw [records_setPhase, records_setSignal, mem_records_forget, h.mem_records]
    simp only [leads]
    constructor
    · rintro ⟨⟨d, hd⟩, hne⟩
      exact ⟨d, hd, fun hdc => hne ((only d k f' hd).mp hdc)⟩
    · rintro ⟨d, hd, hne⟩
      exact ⟨⟨d, hd⟩, fun he => hne ((only d k f' hd).mpr he)⟩
  · exact h.leads_inj d d' k k' f' ((leads ..).mp hd).1 ((leads ..).mp hd').1
  · obtain ⟨hd', hne⟩ := (leads d k f').mp ⟨_, hd, hf⟩
    rw [standing?_setPhase, if_neg (Ne.symm hne)] at hd
    have hff : f ≠ f' := by
      rintro rfl
      exact hne (h.leads_inj _ _ _ _ _ hd' hlc)
    rw [flights_setPhase, getElem?_flights_setSignal, if_neg hff]
    exact h.flight_of_led d k phase f' hd hf
  · rw [flights_setPhase, getElem?_flights_setSignal, flights_forget]
    rcases standing_of_setPhase (g := (g.forget key f).setSignal f signal) hc hd with
      ⟨-, hd⟩ | ⟨-, -, hq⟩
    · obtain ⟨signal, hf⟩ := h.flight_of_waiting d k f' hd
      split <;> simp [hf]
    · exact absurd hq (hw f')
  · rw [flights_setPhase, getElem?_flights_setSignal, flights_forget] at hf
    split at hf
    · obtain ⟨fl, -, he⟩ := Option.map_eq_some_iff.mp hf
      exact absurd (Flight.mk.inj he).2 hs
    · rename_i hff
      obtain ⟨d, hd⟩ := h.led_of_pending k f' hf
      refine ⟨d, (leads ..).mpr ⟨hd, fun hdc => hff ?_⟩⟩
      exact (Prod.mk.inj ((only d k f' hd).mp hdc)).2.symm

/-- **Every step keeps the invariant.** -/
theorem step (h : g.Sound) {e : Event α ω} (hs : Step g e g') : g'.Sound := by
  cases hs with
  | arrive key work => exact h.arrive key work
  | @board c f key hc hr =>
    -- A flight that has a record has a leader, who leads it for the same key.
    refine h.setPhase hc rfl rfl fun f' hf => ?_
    obtain rfl := Phase.waiting.inj hf
    obtain ⟨d, phase, hd, hl⟩ := h.lookup_eq_some_iff.mp hr
    obtain ⟨signal, -, hf⟩ := h.flight_of_led d key phase f hd hl
    exact ⟨signal, hf⟩
  | lead hc hr => exact h.lead (standing?_of_callers hc) hr
  | proceed hc => exact h.setPhase hc rfl rfl (by simp)
  | settle hc => exact h.setPhase hc rfl rfl (by simp)
  | publish hc => exact h.publish hc
  | @retire c f key outcome hc =>
    -- The outcome has been published before, so that it makes no difference to do it again.
    have he : (g.forget key f).setSignal f (.sent outcome) = g.forget key f :=
      setSignal_eq_self (h.flight_of_signal hc rfl rfl)
    rw [← he]
    exact h.land hc rfl rfl (by simp) (by simp)
  | hear hc hs => exact h.setPhase hc rfl rfl (by simp)
  | startOver hc hs => exact h.setPhase hc rfl rfl (by simp)
  | leave hc => exact h.setPhase hc rfl rfl (by simp)
  | abandon hc => exact h.land hc rfl rfl (by simp) (by simp)

end Sound

/-- **The invariant holds in every state a run comes to.** -/
theorem sound_of_run {ms : List (Moment (Gate α ω) (Event α ω))}
    (run : Run step? (empty : Gate α ω) ms g) : g.Sound :=
  run.invariant Sound.empty fun h hs => h.step (step_of_step? hs)

end ReadThrough.Gate
