import Mathlib.Data.List.Basic
import ReadThrough.Proofs.Flight.Members

/-!
# One key among others

All keys share one gate: one list of records, one numbering of flights and one of callers. Still
nobody who comes for a key can tell whether anybody comes for another one. Seen from a key, the gate
consists of the record, the flights and the callers for the key, numbered among themselves. A step
about a caller for another key changes nothing of this, and a step about a caller for the key does
to it what it does to the gate. So the steps of the key, taken out of a run, make a run by
themselves, and at every step of it the gate is what was seen of it from the key.

## Main definitions

* `rank p l i`: the place among the members of a list with `p`
* `Gate.only key g`: the gate as it is seen from a key
* `Moment.concerns key m`: the caller the event is about came for the key
* `Gate.kept key ms`: the events of a run that concern a key
* `Gate.Separate key ms g`: what the run of these events has in common with the whole run

## Main results

* `Gate.Step.only`, `Gate.Step.only_of_ne`: a step seen from the key it is about, and from another
* `Gate.run_only`: a run seen from a key is a run
* `Gate.separate`: keys do not interfere
-/

namespace ReadThrough

/-! ## Places among some members of a list -/

section Rank

variable {β : Type} {p : β → Bool} {l l' : List β} {f : β → β} {a : β} {i j : Nat}

/-- The place that the member `i` of a list has among those with `p`. -/
def rank (p : β → Bool) (l : List β) (i : Nat) : Nat := (l.take i).countP p

@[simp] theorem rank_zero : rank p l 0 = 0 := rfl

@[simp] theorem rank_cons_succ : rank p (a :: l) (i + 1) = rank p l i + if p a then 1 else 0 := by
  rw [rank, List.take_succ_cons, List.countP_cons, rank]

theorem rank_append (h : i ≤ l.length) : rank p (l ++ l') i = rank p l i := by
  rw [rank, List.take_append_of_le_length h, rank]

theorem rank_length : rank p l l.length = (l.filter p).length := by
  rw [rank, List.take_length, List.countP_eq_length_filter]

/-- What changes members without touching `p` changes no places. -/
theorem rank_modify (hp : ∀ a, p (f a) = p a) : rank p (l.modify j f) i = rank p l i := by
  induction l generalizing i j with
  | nil => cases j <;> rfl
  | cons a l ih =>
    cases i with
    | zero => rfl
    | succ i =>
      cases j with
      | zero => simp [hp]
      | succ j => simp [ih]

/-- A member with `p` is at its place. -/
theorem getElem?_filter_rank (h : l[i]? = some a) (ha : p a) :
    (l.filter p)[rank p l i]? = some a := by
  induction l generalizing i with
  | nil => simp at h
  | cons b l ih =>
    cases i with
    | zero =>
      obtain rfl : b = a := by simpa using h
      simp [ha]
    | succ i =>
      have ih := ih (i := i) (by simpa using h)
      by_cases hb : p b <;> simpa [hb] using ih

/-- To change a member with `p` is to change it among those with `p`. -/
theorem filter_modify (hp : ∀ a, p (f a) = p a) (h : l[i]? = some a) (ha : p a) :
    (l.modify i f).filter p = (l.filter p).modify (rank p l i) f := by
  induction l generalizing i with
  | nil => simp at h
  | cons b l ih =>
    cases i with
    | zero =>
      obtain rfl : b = a := by simpa using h
      simp [ha, hp]
    | succ i =>
      have ih := ih (i := i) (by simpa using h)
      by_cases hb : p b <;> simp [hb, ih]

/-- To change a member without `p` changes nothing among those with `p`. -/
theorem filter_modify_of_not (hp : ∀ a, p (f a) = p a) (h : l[i]? = some a) (ha : ¬ p a) :
    (l.modify i f).filter p = l.filter p := by
  induction l generalizing i with
  | nil => simp at h
  | cons b l ih =>
    cases i with
    | zero =>
      obtain rfl : b = a := by simpa using h
      simp [ha, hp]
    | succ i =>
      have ih := ih (i := i) (by simpa using h)
      by_cases hb : p b <;> simp [hb, ih]

theorem map_modify {γ : Type} {g : β → γ} {f' : γ → γ} (hg : ∀ a, g (f a) = f' (g a)) :
    (l.modify i f).map g = (l.map g).modify i f' := by
  induction l generalizing i with
  | nil => cases i <;> rfl
  | cons b l ih => cases i <;> simp [hg, ih]

end Rank

/-! ## Flights by other numbers -/

variable {α ω : Type}

namespace Phase

/-- The same phase where flights have other numbers. -/
def renumber (n : Nat → Nat) : Phase α ω → Phase α ω
  | .waiting flight => .waiting (n flight)
  | .leading flight work => .leading (n flight) work
  | .settled flight outcome => .settled (n flight) outcome
  | .published flight outcome => .published (n flight) outcome
  | phase => phase

/-- Only the number of the flight that a caller is on matters. -/
theorem renumber_congr {n n' : Nat → Nat} {phase : Phase α ω}
    (h : ∀ f, phase.flight? = some f → n f = n' f) : phase.renumber n = phase.renumber n' := by
  cases phase with
  | waiting f => exact congrArg Phase.waiting (h f rfl)
  | leading f work => exact congrArg (Phase.leading · work) (h f rfl)
  | settled f outcome => exact congrArg (Phase.settled · outcome) (h f rfl)
  | published f outcome => exact congrArg (Phase.published · outcome) (h f rfl)
  | _ => rfl

end Phase

/-- The caller came for the key. -/
def Caller.isFor (key : String) (caller : Caller α ω) : Bool := decide (caller.key = key)

/-- The flight is for the key. -/
def Flight.isFor (key : String) (flight : Flight α) : Bool := decide (flight.key = key)

/-- The same caller where flights have other numbers. -/
def Caller.renumber (n : Nat → Nat) (caller : Caller α ω) : Caller α ω :=
  { caller with phase := caller.phase.renumber n }

/-- The same event where callers have other numbers. -/
def Gate.Event.renumber (n : Nat → Nat) : Gate.Event α ω → Gate.Event α ω
  | .arrive key work => .arrive key work
  | .join c => .join (n c)
  | .proceed c work => .proceed (n c) work
  | .settle c outcome => .settle (n c) outcome
  | .publish c => .publish (n c)
  | .retire c => .retire (n c)
  | .wake c => .wake (n c)
  | .drop c => .drop (n c)

namespace Gate

variable {g g' : Gate α ω} {c f : Nat} {key k : String} {p q : Phase α ω} {work : ω}
  {signal : Signal α} {e : Event α ω} {ms : List (Moment (Gate α ω) (Event α ω))}

/-! ## The gate as it is seen from a key -/

/-- The number of a caller among the callers for a key. -/
def callerRank (key : String) (g : Gate α ω) : Nat → Nat :=
  rank (Caller.isFor key) g.callers.toList

/-- The number of a flight among the flights for a key. -/
def flightRank (key : String) (g : Gate α ω) : Nat → Nat :=
  rank (Flight.isFor key) g.flights.toList

/-- The gate as it is seen from a key: the record, the flights and the callers for the key, numbered
among themselves. -/
def only (key : String) (g : Gate α ω) : Gate α ω where
  records := ((g.records.lookup key).map fun flight => (key, g.flightRank key flight)).toList
  flights := (g.flights.toList.filter (Flight.isFor key)).toArray
  callers := ((g.callers.toList.filter (Caller.isFor key)).map
    (Caller.renumber (g.flightRank key))).toArray

theorem ext_toList (records : g.records = g'.records)
    (flights : g.flights.toList = g'.flights.toList)
    (callers : g.callers.toList = g'.callers.toList) : g = g' := by
  obtain ⟨rs, fs, cs⟩ := g
  obtain ⟨rs', fs', cs'⟩ := g'
  obtain rfl : rs = rs' := records
  obtain rfl : fs = fs' := Array.ext' flights
  obtain rfl : cs = cs' := Array.ext' callers
  rfl

theorem callers_only (h : g.callers[c]? = some ⟨key, work, p⟩) :
    (g.only key).callers[g.callerRank key c]? =
      some ⟨key, work, p.renumber (g.flightRank key)⟩ := by
  have hc := getElem?_filter_rank (p := Caller.isFor key)
    (Array.getElem?_toList ▸ h) (decide_eq_true rfl)
  simp [only, callerRank, hc, Caller.renumber]

/-- A caller for the key stands where it stands. -/
theorem standing?_only (h : g.standing? c = some (key, p)) :
    (g.only key).standing? (g.callerRank key c) =
      some (key, p.renumber (g.flightRank key)) := by
  obtain ⟨work, hc⟩ := exists_callers_of_standing? h
  exact standing?_of_callers (callers_only hc)

/-- A flight for the key tells what it tells. -/
theorem signal?_only (h : g.flights[f]? = some ⟨key, signal⟩) :
    (g.only key).signal? (g.flightRank key f) = some signal := by
  have hf := getElem?_filter_rank (p := Flight.isFor key)
    (Array.getElem?_toList ▸ h) (decide_eq_true rfl)
  simp [signal?, only, flightRank, hf]

/-- The key has a record if it has one. -/
theorem lookup_only : (g.only key).records.lookup key =
    (g.records.lookup key).map (g.flightRank key) := by
  cases h : g.records.lookup key <;> simp [only, h]

theorem size_flights_only : (g.only key).flights.size = g.flightRank key g.flights.size := by
  have hsize : g.flights.size = g.flights.toList.length := rfl
  rw [flightRank, hsize, rank_length]
  simp [only]

/-! ### Changes seen from a key -/

theorem only_setPhase (hc : g.standing? c = some (key, p)) : (g.setPhase c q).only key =
    (g.only key).setPhase (g.callerRank key c) (q.renumber (g.flightRank key)) := by
  obtain ⟨work, hc⟩ := exists_callers_of_standing? hc
  have hfilter : (g.callers.toList.modify c ({ · with phase := q })).filter (Caller.isFor key) =
      (g.callers.toList.filter (Caller.isFor key)).modify (g.callerRank key c)
        ({ · with phase := q }) :=
    filter_modify (fun _ => rfl) (Array.getElem?_toList ▸ hc) (decide_eq_true rfl)
  refine ext_toList rfl rfl ?_
  simp only [only, setPhase, Array.toList_modify, hfilter]
  exact map_modify fun _ => rfl

theorem only_setPhase_of_ne (hc : g.standing? c = some (k, p)) (hk : k ≠ key) :
    (g.setPhase c q).only key = g.only key := by
  obtain ⟨work, hc⟩ := exists_callers_of_standing? hc
  have hfilter : (g.callers.toList.modify c ({ · with phase := q })).filter (Caller.isFor key) =
      g.callers.toList.filter (Caller.isFor key) :=
    filter_modify_of_not (fun _ => rfl) (Array.getElem?_toList ▸ hc)
      (by simpa [Caller.isFor] using hk)
  refine ext_toList rfl rfl ?_
  simp only [only, setPhase, Array.toList_modify, hfilter]
  rfl

@[simp] theorem flightRank_setSignal :
    (g.setSignal f signal).flightRank key = g.flightRank key := by
  funext i
  simp only [flightRank, setSignal, Array.toList_modify]
  exact rank_modify fun _ => rfl

theorem only_setSignal {former : Signal α} (hf : g.flights[f]? = some ⟨key, former⟩) :
    (g.setSignal f signal).only key =
      (g.only key).setSignal (g.flightRank key f) signal := by
  refine ext_toList ?_ ?_ ?_
  · simp [only]
  · simp only [only, setSignal, Array.toList_modify, flightRank]
    exact filter_modify (fun _ => rfl) (Array.getElem?_toList ▸ hf) (decide_eq_true rfl)
  · simp only [only, flightRank_setSignal]
    rfl

theorem only_setSignal_of_ne {former : Signal α} (hf : g.flights[f]? = some ⟨k, former⟩)
    (hk : k ≠ key) : (g.setSignal f signal).only key = g.only key := by
  refine ext_toList ?_ ?_ ?_
  · simp [only]
  · simp only [only, setSignal, Array.toList_modify]
    exact filter_modify_of_not (fun _ => rfl) (Array.getElem?_toList ▸ hf)
      (by simpa [Flight.isFor] using hk)
  · simp only [only, flightRank_setSignal]
    rfl

/-- The record of a flight that has a leader is the only one for the key. -/
theorem Sound.only_forget (sound : g.Sound) (hl : g.Leads c key f) :
    (g.forget key f).only key = (g.only key).forget key (g.flightRank key f) := by
  have hlookup : g.records.lookup key = some f := sound.lookup_eq_some_iff.mpr ⟨c, hl⟩
  have hgone : (g.forget key f).records.lookup key = none := by
    rw [List.lookup_eq_none_iff]
    rintro ⟨k, f'⟩ hr
    obtain ⟨hr, hne⟩ := mem_records_forget.mp hr
    rw [bne_iff_ne]
    -- Another record for the key would be that of another leader.
    rintro rfl
    obtain ⟨d, hd⟩ := (sound.mem_records _ _).mp hr
    exact hne (by rw [(sound.leader_unique hl hd).2])
  refine ext_toList ?_ rfl rfl
  simp only [only, hgone]
  simp [forget, hlookup]

theorem lookup_forget_of_ne (hk : k ≠ key) :
    (g.forget k f).records.lookup key = g.records.lookup key := by
  show (g.records.filter (· ≠ (k, f))).lookup key = g.records.lookup key
  induction g.records with
  | nil => rfl
  | cons r rs ih =>
    obtain ⟨k', f'⟩ := r
    by_cases hr : (k', f') = (k, f)
    · obtain ⟨rfl, rfl⟩ := Prod.mk.inj hr
      have hkey : (key == k') = false := beq_eq_false_iff_ne.mpr (Ne.symm hk)
      rw [List.filter_cons_of_neg (by simp), ih, List.lookup_cons, hkey]
    · have hkept : decide ((k', f') ≠ (k, f)) = true := decide_eq_true hr
      rw [List.filter_cons, if_pos hkept, List.lookup_cons, List.lookup_cons, ih]

theorem only_forget_of_ne (hk : k ≠ key) : (g.forget k f).only key = g.only key := by
  refine ext_toList ?_ rfl rfl
  simp only [only, lookup_forget_of_ne hk]
  rfl

theorem only_arrive : (g.arrive key work).only key = (g.only key).arrive key work := by
  refine ext_toList rfl rfl ?_
  simp [only, arrive, Caller.isFor, Caller.renumber, Phase.renumber, flightRank]

theorem only_arrive_of_ne (hk : k ≠ key) : (g.arrive k work).only key = g.only key := by
  refine ext_toList rfl rfl ?_
  simp [only, arrive, Caller.isFor, hk, flightRank]

/-- A flight that takes off has a number of its own, so all others keep theirs. -/
theorem flightRank_takeOff (h : f < g.flights.size) :
    (g.takeOff k).flightRank key f = g.flightRank key f := by
  simp only [flightRank, takeOff, Array.toList_push]
  exact rank_append (Nat.le_of_lt h)

/-- Whoever is on a flight keeps its number when another one takes off. -/
theorem Sound.renumber_takeOff (sound : g.Sound) (h : g.standing? c = some (key, p)) :
    p.renumber ((g.takeOff k).flightRank key) = p.renumber (g.flightRank key) := by
  refine Phase.renumber_congr fun f hf => ?_
  obtain ⟨signal, hflight⟩ := sound.exists_flight h hf
  exact flightRank_takeOff (Array.getElem?_eq_some_iff.mp hflight).1

theorem Sound.callers_only_takeOff (sound : g.Sound) (k : String) :
    ((g.takeOff k).only key).callers.toList = (g.only key).callers.toList := by
  -- The same callers are seen, and none of them is on the new flight.
  refine List.map_congr_left fun caller hcaller => ?_
  obtain ⟨hmem, hkey⟩ := List.mem_filter.mp hcaller
  obtain ⟨c, hc⟩ := List.mem_iff_getElem?.mp hmem
  obtain ⟨k', work, p⟩ := caller
  obtain rfl : k' = key := of_decide_eq_true hkey
  have hcallers : g.callers[c]? = some ⟨k', work, p⟩ := Array.getElem?_toList.symm.trans hc
  have hstanding := standing?_of_callers hcallers
  exact congrArg (Caller.mk k' work) (sound.renumber_takeOff hstanding)

/-- A new flight for the key has the next number there. -/
theorem flightRank_takeOff_size :
    (g.takeOff key).flightRank key g.flights.size = (g.only key).flights.size := by
  rw [size_flights_only]
  simp only [flightRank, takeOff, Array.toList_push]
  exact rank_append (Nat.le_refl _)

/-- A flight for the key takes off there too. -/
theorem Sound.only_takeOff (sound : g.Sound) (hr : g.records.lookup key = none) :
    (g.takeOff key).only key = (g.only key).takeOff key := by
  have hlookup : (g.takeOff key).records.lookup key = some g.flights.size := by
    rw [takeOff, List.lookup_cons_self]
  refine ext_toList ?_ ?_ (sound.callers_only_takeOff key)
  · have hrecords : (g.only key).records = [] := by
      simp only [only, hr, Option.map_none, Option.toList_none]
    show ((g.takeOff key).records.lookup key |>.map _).toList = (key, _) :: (g.only key).records
    rw [hlookup, hrecords, Option.map_some, flightRank_takeOff_size, Option.toList_some]
  · simp [only, takeOff, Flight.isFor]

/-- A flight for another key is not seen. -/
theorem Sound.only_takeOff_of_ne (sound : g.Sound) (hk : k ≠ key) :
    (g.takeOff k).only key = g.only key := by
  have hlookup : (g.takeOff k).records.lookup key = g.records.lookup key := by
    have hkey : (key == k) = false := beq_eq_false_iff_ne.mpr (Ne.symm hk)
    rw [takeOff, List.lookup_cons, hkey]
  refine ext_toList ?_ ?_ (sound.callers_only_takeOff k)
  · simp only [only, hlookup]
    cases hr : g.records.lookup key with
    | none => rfl
    | some f =>
      -- The record is that of a flight that was there before.
      obtain ⟨c, hl⟩ := sound.lookup_eq_some_iff.mp hr
      rw [Option.map_some, Option.map_some, flightRank_takeOff (sound.flight_lt hl)]
  · simp [only, takeOff, Flight.isFor, hk]

/-! ## Steps seen from a key -/

/-- The key that the caller came for whom an event is about. -/
def keyOf? (g : Gate α ω) : Event α ω → Option String
  | .arrive key _ => some key
  | .join c | .proceed c _ | .settle c _ | .publish c | .retire c | .wake c | .drop c =>
    (g.standing? c).map Prod.fst

theorem keyOf?_of_standing (hc : g.standing? c = some (k, p)) (he : e.caller? = some c) :
    g.keyOf? e = some k := by
  cases e <;> simp_all [keyOf?, Event.caller?]

theorem key_eq_of_keyOf? (hc : g.standing? c = some (k, p)) (hcaller : e.caller? = some c)
    (he : g.keyOf? e = some key) : k = key :=
  Option.some.inj ((keyOf?_of_standing hc hcaller).symm.trans he)

theorem key_ne_of_keyOf? (hc : g.standing? c = some (k, p)) (hcaller : e.caller? = some c)
    (he : g.keyOf? e ≠ some key) : k ≠ key :=
  fun hk => he ((keyOf?_of_standing hc hcaller).trans (congrArg some hk))

/-- **A step about a caller for the key** does to it what it does to the gate. -/
theorem Step.only (hs : Step g e g') (sound : g.Sound) (he : g.keyOf? e = some key) :
    Step (g.only key) (e.renumber (g.callerRank key)) (g'.only key) := by
  -- What the gate becomes is what it was with changes, so these are seen one after the other.
  cases hs with
  | arrive k work =>
    obtain rfl := Option.some.inj he
    rw [only_arrive]
    exact .arrive k work
  | board hc hr =>
    obtain rfl := key_eq_of_keyOf? hc rfl he
    rw [only_setPhase hc]
    exact .board (standing?_only hc) (by rw [lookup_only, hr, Option.map_some])
  | @lead c k work hc hr =>
    have hstanding := standing?_of_callers hc
    obtain rfl := key_eq_of_keyOf? hstanding rfl he
    have hc' : (g.takeOff k).standing? c = some (k, .arriving) := hstanding
    -- The caller leads the flight that comes next, here by its number among those for the key.
    rw [only_setPhase hc', sound.only_takeOff hr, Phase.renumber, flightRank_takeOff_size]
    exact .lead (callers_only hc) (by rw [lookup_only, hr, Option.map_none])
  | proceed hc =>
    obtain rfl := key_eq_of_keyOf? hc rfl he
    rw [only_setPhase hc]
    exact .proceed (standing?_only hc)
  | settle hc =>
    obtain rfl := key_eq_of_keyOf? hc rfl he
    rw [only_setPhase hc]
    exact .settle (standing?_only hc)
  | @publish c f k outcome hc =>
    obtain rfl := key_eq_of_keyOf? hc rfl he
    have hf := sound.flight_of_signal hc rfl rfl
    have hc' : (g.setSignal f (.sent outcome)).standing? c = some (k, .settled f outcome) := hc
    rw [only_setPhase hc', only_setSignal hf, flightRank_setSignal]
    exact .publish (standing?_only hc)
  | @retire c f k outcome hc =>
    obtain rfl := key_eq_of_keyOf? hc rfl he
    have hc' : (g.forget k f).standing? c = some (k, .published f outcome) := hc
    rw [only_setPhase hc', sound.only_forget ⟨_, hc, rfl⟩]
    exact .retire (standing?_only hc)
  | hear hc hs =>
    obtain rfl := key_eq_of_keyOf? hc rfl he
    rw [only_setPhase hc]
    exact .hear (standing?_only hc) (signal?_only (sound.flight_of_heard hc hs))
  | startOver hc hs =>
    obtain rfl := key_eq_of_keyOf? hc rfl he
    rw [only_setPhase hc]
    exact .startOver (standing?_only hc) (signal?_only (sound.flight_of_heard hc hs))
  | leave hc =>
    obtain rfl := key_eq_of_keyOf? hc rfl he
    rw [only_setPhase hc]
    exact .leave (standing?_only hc)
  | @abandon c f k work hc =>
    obtain rfl := key_eq_of_keyOf? hc rfl he
    have hf : (g.forget k f).flights[f]? = some ⟨k, .pending⟩ := sound.flight_of_signal hc rfl rfl
    have hc' : ((g.forget k f).setSignal f .closed).standing? c = some (k, .leading f work) := hc
    rw [only_setPhase hc', only_setSignal hf, sound.only_forget ⟨_, hc, rfl⟩]
    exact .abandon (standing?_only hc)

/-- **A step about a caller for another key** is not seen. -/
theorem Step.only_of_ne (hs : Step g e g') (sound : g.Sound) (he : g.keyOf? e ≠ some key) :
    g'.only key = g.only key := by
  cases hs with
  | arrive k work => exact only_arrive_of_ne fun hk => he (congrArg some hk)
  | board hc hr =>
    exact only_setPhase_of_ne hc (key_ne_of_keyOf? hc rfl he)
  | @lead c k work hc hr =>
    have hc' : (g.takeOff k).standing? c = some (k, .arriving) := standing?_of_callers hc
    have hk := key_ne_of_keyOf? (standing?_of_callers hc) rfl he
    rw [only_setPhase_of_ne hc' hk, sound.only_takeOff_of_ne hk]
  | proceed hc =>
    exact only_setPhase_of_ne hc (key_ne_of_keyOf? hc rfl he)
  | settle hc =>
    exact only_setPhase_of_ne hc (key_ne_of_keyOf? hc rfl he)
  | @publish c f k outcome hc =>
    have hc' : (g.setSignal f (.sent outcome)).standing? c = some (k, .settled f outcome) := hc
    have hk := key_ne_of_keyOf? hc rfl he
    rw [only_setPhase_of_ne hc' hk, only_setSignal_of_ne (sound.flight_of_signal hc rfl rfl) hk]
  | @retire c f k outcome hc =>
    have hc' : (g.forget k f).standing? c = some (k, .published f outcome) := hc
    have hk := key_ne_of_keyOf? hc rfl he
    rw [only_setPhase_of_ne hc' hk, only_forget_of_ne hk]
  | hear hc hs =>
    exact only_setPhase_of_ne hc (key_ne_of_keyOf? hc rfl he)
  | startOver hc hs =>
    exact only_setPhase_of_ne hc (key_ne_of_keyOf? hc rfl he)
  | leave hc =>
    exact only_setPhase_of_ne hc (key_ne_of_keyOf? hc rfl he)
  | @abandon c f k work hc =>
    have hf : (g.forget k f).flights[f]? = some ⟨k, .pending⟩ := sound.flight_of_signal hc rfl rfl
    have hc' : ((g.forget k f).setSignal f .closed).standing? c = some (k, .leading f work) := hc
    have hk := key_ne_of_keyOf? hc rfl he
    rw [only_setPhase_of_ne hc' hk, only_setSignal_of_ne hf hk, only_forget_of_ne hk]

end Gate

/-! ## Runs seen from a key -/

namespace Moment

/-- The caller the event is about came for the key. -/
def concerns (key : String) (m : Moment (Gate α ω) (Gate.Event α ω)) : Bool :=
  decide (m.before.keyOf? m.event = some key)

/-- The moment as it is seen from a key. -/
def only (key : String) (m : Moment (Gate α ω) (Gate.Event α ω)) :
    Moment (Gate α ω) (Gate.Event α ω) :=
  ⟨m.before.only key, m.event.renumber (m.before.callerRank key), m.after.only key⟩

end Moment

namespace Gate

variable {g g' : Gate α ω} {c f : Nat} {key : String} {p : Phase α ω}
  {ms : List (Moment (Gate α ω) (Event α ω))}

/-- The events of a run that concern a key, with the callers numbered as if no others had come. -/
def kept (key : String) (ms : List (Moment (Gate α ω) (Event α ω))) : List (Event α ω) :=
  (ms.filter (·.concerns key)).map fun m => m.event.renumber (m.before.callerRank key)

/-- **A run seen from a key is a run.** -/
theorem run_only (run : Run step? (empty : Gate α ω) ms g) (key : String) :
    Run step? (empty : Gate α ω) ((ms.filter (·.concerns key)).map (·.only key)) (g.only key) := by
  induction run with
  | nil => exact .nil
  | @snoc ms g g' e run he ih =>
    have sound := sound_of_run run
    have hs := step_of_step? he
    rw [List.filter_append, List.map_append]
    -- What was seen so far ends with the gate as it is seen now.
    by_cases hkey : g.keyOf? e = some key
    · have hconcerns : Moment.concerns key ⟨g, e, g'⟩ = true := decide_eq_true hkey
      rw [List.filter_cons_of_pos hconcerns]
      exact ih.snoc (step?_of_step (hs.only sound hkey))
    · have hconcerns : ¬ Moment.concerns key ⟨g, e, g'⟩ = true := by
        simpa [Moment.concerns] using hkey
      rw [List.filter_cons_of_neg hconcerns, hs.only_of_ne sound hkey]
      simpa using ih

/-! ### What is seen from a key -/

@[simp] theorem isLive_renumber (n : Nat → Nat) (p : Phase α ω) :
    (p.renumber n).isLive = p.isLive := by
  cases p <;> rfl

/-- As many callers are pending there as are for the key. -/
theorem pending_only : (g.only key).pending = (g.callers.toList.filter fun caller =>
    caller.isFor key && caller.phase.isLive).length := by
  rw [pending, only, List.filter_map, List.length_map, List.filter_filter]
  congr 2
  funext caller
  simp [Caller.renumber, Bool.and_comm]

theorem inFlight_only :
    (g.only key).inFlight = if (g.records.lookup key).isSome then 1 else 0 := by
  cases h : g.records.lookup key <;> simp [inFlight, only, h]

/-- What the run of the events that concern a key has in common with the whole run. -/
structure Separate (key : String) (ms : List (Moment (Gate α ω) (Event α ω))) (g : Gate α ω) :
    Prop where
  /-- All of the events happen, and the gate is what was seen from the key, at each of them and in
  the end. -/
  alone : trail step? (empty : Gate α ω) (kept key ms) =
    ((ms.filter (·.concerns key)).map (·.only key), g.only key)
  /-- Nothing else that happened was seen. -/
  unseen : ∀ m ∈ ms, m.concerns key = false → m.after.only key = m.before.only key
  /-- So each caller for the key stands where it stands in the whole run, at work, waiting or with
  its outcome, -/
  standing : ∀ c p, g.standing? c = some (key, p) →
    (trail step? (empty : Gate α ω) (kept key ms)).2.standing? (g.callerRank key c) =
      some (key, p.renumber (g.flightRank key))
  /-- as many are pending, -/
  pending : (trail step? (empty : Gate α ω) (kept key ms)).2.pending =
    (g.callers.toList.filter fun caller => caller.isFor key && caller.phase.isLive).length
  /-- and there is a record if there is one. -/
  recorded : (trail step? (empty : Gate α ω) (kept key ms)).2.inFlight =
    if (g.records.lookup key).isSome then 1 else 0

/-- **Keys do not interfere.** Whatever happens at a gate, the events that concern a key make the
same run when all other events are left out. -/
theorem separate (run : Run step? (empty : Gate α ω) ms g) (key : String) : Separate key ms g := by
  have hkept : kept key ms = ((ms.filter (·.concerns key)).map (·.only key)).map (·.event) := by
    rw [kept, List.map_map]
    rfl
  have halone : trail step? (empty : Gate α ω) (kept key ms) =
      ((ms.filter (·.concerns key)).map (·.only key), g.only key) := by
    rw [hkept]
    exact trail_of_run (run_only run key)
  refine ⟨halone, fun m hm hconcerns => ?_, fun c p hc => ?_, ?_, ?_⟩
  · obtain ⟨pre, post, rfl⟩ := List.append_of_mem hm
    obtain ⟨run', hs, -⟩ := run.at_moment
    exact (step_of_step? hs).only_of_ne (sound_of_run run') (of_decide_eq_false hconcerns)
  · rw [halone]
    exact standing?_only hc
  · rw [halone]
    exact pending_only
  · rw [halone]
    exact inFlight_only

/-- Two keys, each with a leader and one who waits: the first leader is dropped and the one who
waited for it takes over, while the other key's work is completed. -/
def interleaved : List (Event Nat Unit) :=
  [.arrive "k" (), .arrive "m" (), .join 0, .join 1, .arrive "k" (), .join 2, .arrive "m" (),
    .drop 0, .join 3, .wake 2, .settle 1 5, .join 2, .publish 1, .retire 1, .settle 2 7,
    .publish 2, .wake 3, .retire 2]

theorem separate_interleaved :
    Separate "k" (trail step? (empty : Gate Nat Unit) interleaved).1
        (trail step? (empty : Gate Nat Unit) interleaved).2 ∧
      kept "k" (trail step? (empty : Gate Nat Unit) interleaved).1 =
        [.arrive "k" (), .join 0, .arrive "k" (), .join 1, .drop 0, .wake 1, .join 1, .settle 1 7,
          .publish 1, .retire 1] :=
  ⟨separate (run_trail step? empty interleaved) "k", by decide⟩

end Gate

end ReadThrough
