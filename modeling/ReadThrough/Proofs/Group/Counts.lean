import ReadThrough.Proofs.Group.Loads
import ReadThrough.Proofs.Group.Rest

/-!
# The counts of a group

A group counts its lookups, its store counts the looks into it, and nothing reconciles the two but
the order of steps. Every look is a hit, a miss or the second look of a leader; whatever a source
answers takes a place in the store that was free, because the store has nothing for a key while a
source is asked for it.

The counts that are not balanced yet belong to callers under way. A caller who missed may still
execute a load, and a leader who asks a source may still count its answer, so the inequalities
between counts hold with those callers on the smaller side.

## Main definitions

* `Gate.count asked g`: how many callers stand where asked for
* `Group.Tallied g`: the looks counted by the store are those counted by the group
* `Traffic.Covered t`: the inequalities between counts, with the callers under way
* `Group.Reconciled g`: the counts of a group agree with each other and with its store

## Main results

* `Traffic.size_add_evictions`: values answered are values held or evicted
* `Traffic.Covered.step`: every step keeps the inequalities
* `Traffic.counts_reconcile`: the counts agree after every run
-/

namespace ReadThrough

/-! ## Where callers stand, in numbers -/

namespace Gate

variable {α ω : Type} {g : Gate α ω} {c : Nat} {key : String} {p q : Phase α ω}

/-- The number of callers who stand where asked for. -/
def count (asked : Phase α ω → Bool) (g : Gate α ω) : Nat := g.callers.countP (asked ·.phase)

theorem count_arrive (asked : Phase α ω → Bool) {work : ω} :
    (g.arrive key work).count asked = g.count asked + if asked .arriving then 1 else 0 :=
  Array.countP_push

/-- A caller leaves one place and takes another. -/
theorem count_setPhase (asked : Phase α ω → Bool) (h : g.standing? c = some (key, p)) :
    (g.setPhase c q).count asked + (if asked p then 1 else 0) =
      g.count asked + if asked q then 1 else 0 := by
  obtain ⟨work, hc⟩ := exists_callers_of_standing? h
  obtain ⟨hlt, hget⟩ := Array.getElem?_eq_some_iff.mp hc
  have hset : (g.setPhase c q).callers = g.callers.set c ⟨key, work, q⟩ hlt := by
    apply Array.ext_getElem?
    intro i
    rw [getElem?_callers_setPhase, Array.getElem?_set]
    split
    · rename_i hi
      rw [← hi, hc]
      rfl
    · rfl
  -- The caller itself is counted before it moves, so nothing is lost in the subtraction.
  have hle := Array.boole_getElem_le_countP (p := (asked ·.phase)) hlt
  rw [count, count, hset, Array.countP_set]
  simp only [hget] at hle ⊢
  omega

end Gate

/-! ## Operations of a group -/

/-- The source is a peer. -/
def Side.isPeer : Side → Bool
  | .peer _ => true
  | .loader => false

namespace Group

variable {g : Group} {key : String} {side : Side} {answer outcome : Outcome}

theorem look_counters (hk : key ≠ "") : (g.look key).1.counters =
    (g.counters.record .gets).record
      (if (g.store.find? key).isSome then .cacheHits else .loads) := by
  rw [look_of_ne hk, Store.find?]
  rcases g.store.get key with ⟨store, _ | value⟩ <;> rfl

theorem lookAgain_counters (g : Group) (key : String) : (g.lookAgain key).1.counters =
    g.counters.record (if (g.store.find? key).isSome then .cacheHits else .executions) := by
  rw [lookAgain, Store.find?]
  rcases g.store.get key with ⟨store, _ | value⟩ <;> rfl

/-- The looks into the store that it has counted are those that the group has. -/
structure Tallied (g : Group) : Prop where
  hits : g.store.counts.hits = g.counters.cacheHits
  gets : g.store.counts.gets = g.counters.cacheHits + g.counters.loads + g.counters.executions

namespace Tallied

theorem look (h : g.Tallied) : (g.look key).1.Tallied := by
  obtain ⟨hits, gets⟩ := h
  by_cases hk : key = ""
  · subst hk
    exact ⟨hits, gets⟩
  · have hcounts : (g.look key).1.store.counts =
        g.store.counts.recordGet (g.store.find? key).isSome := by
      rw [look_store hk]
      rfl
    constructor <;> rw [hcounts, look_counters hk] <;> cases g.store.find? key <;>
      simp [Store.Stats.recordGet, Counters.record] <;> omega

theorem lookAgain (h : g.Tallied) : (g.lookAgain key).1.Tallied := by
  obtain ⟨hits, gets⟩ := h
  have hcounts : (g.lookAgain key).1.store.counts =
      g.store.counts.recordGet (g.store.find? key).isSome := by
    rw [lookAgain_store]
    rfl
  constructor <;> rw [hcounts, lookAgain_counters] <;> cases g.store.find? key <;>
    simp [Store.Stats.recordGet, Counters.record] <;> omega

theorem receive (h : g.Tallied) : (g.receive key side answer).1.Tallied := by
  obtain ⟨hits, gets⟩ := h
  unfold Group.receive
  split
  · exact ⟨hits, gets⟩
  · split <;> exact ⟨hits, gets⟩
  · exact ⟨hits, gets⟩
  · exact ⟨hits, gets⟩

end Tallied

/-- The values that sources answered. -/
def loaded (g : Group) : Nat := g.counters.peerLoads + g.counters.localLoads

theorem loaded_look (g : Group) (key : String) : (g.look key).1.loaded = g.loaded := by
  by_cases hk : key = ""
  · subst hk
    rfl
  · rw [loaded, look_counters hk]
    cases g.store.find? key <;> rfl

theorem loaded_lookAgain (g : Group) (key : String) : (g.lookAgain key).1.loaded = g.loaded := by
  rw [loaded, lookAgain_counters]
  cases g.store.find? key <;> rfl

theorem loaded_receive_ok {value : Value} :
    (g.receive key side (.ok value)).1.loaded = g.loaded + 1 := by
  cases side
  · exact Nat.add_right_comm ..
  · rfl

theorem loaded_receive_error {fault : Fault} :
    (g.receive key side (.error fault)).1.loaded = g.loaded := by
  unfold receive
  split
  · contradiction
  · split <;> rfl
  · contradiction
  · rfl

/-- What a source answers is counted once at most, whatever it is; a peer that had trouble leaves
the count to the loader. -/
theorem receive_counts (g : Group) (key : String) (side : Side) (answer : Outcome) :
    (g.receive key side answer).1.loaded + (g.receive key side answer).1.counters.localErrors ≤
        g.loaded + g.counters.localErrors +
          (if (g.receive key side answer).2.isSome then 1 else 0) ∧
      (g.receive key side answer).1.counters.peerLoads +
          (g.receive key side answer).1.counters.peerErrors ≤
        g.counters.peerLoads + g.counters.peerErrors + (if side.isPeer then 1 else 0) ∧
      (g.receive key side answer).1.counters.gets = g.counters.gets ∧
      (g.receive key side answer).1.counters.cacheHits = g.counters.cacheHits ∧
      (g.receive key side answer).1.counters.executions = g.counters.executions := by
  -- Each answer adds to one count, and the others stand as they are.
  unfold receive loaded
  split
  · refine ⟨?_, ?_, rfl, rfl, rfl⟩
    · show g.counters.peerLoads + 1 + g.counters.localLoads + g.counters.localErrors ≤
        g.counters.peerLoads + g.counters.localLoads + g.counters.localErrors + 1
      omega
    · show g.counters.peerLoads + 1 + g.counters.peerErrors ≤
        g.counters.peerLoads + g.counters.peerErrors + 1
      omega
  · split
    · exact ⟨Nat.le_refl _, Nat.le_refl _, rfl, rfl, rfl⟩
    · exact ⟨Nat.le_succ _, Nat.le_succ _, rfl, rfl, rfl⟩
  · refine ⟨?_, Nat.le_refl _, rfl, rfl, rfl⟩
    show g.counters.peerLoads + (g.counters.localLoads + 1) + g.counters.localErrors ≤
      g.counters.peerLoads + g.counters.localLoads + g.counters.localErrors + 1
    omega
  · exact ⟨Nat.le_refl _, Nat.le_refl _, rfl, rfl, rfl⟩

/-- The counts of a group agree with each other and with those of its store. -/
structure Reconciled (g : Group) : Prop where
  /-- A hit of the store is a lookup answered from it. -/
  hits : g.store.stats.hits = g.counters.cacheHits
  /-- Every other look is a miss that goes to the gate, or that of a leader who goes on. -/
  gets : g.store.stats.gets = g.counters.cacheHits + g.counters.loads + g.counters.executions
  /-- No value that a source answered took the place of another for its key. -/
  stored : g.store.stats.items + g.store.stats.evictions =
    g.counters.peerLoads + g.counters.localLoads
  /-- A lookup is answered from the store, or executes a load, or neither. -/
  looked : g.counters.cacheHits + g.counters.executions ≤ g.counters.gets
  /-- A load ends with one answer at most. -/
  answers : g.counters.peerLoads + g.counters.localLoads + g.counters.localErrors ≤
    g.counters.executions
  /-- A load asks one peer at most. -/
  fetches : g.counters.peerLoads + g.counters.peerErrors ≤ g.counters.executions

end Group

/-! ## Where a caller may still be counted -/

namespace Phase

/-- Missed, and executed no load yet. -/
def isAhead : Phase Outcome Load → Bool
  | .arriving | .waiting _ => true
  | .leading _ load => load.asked?.isNone
  | _ => false

/-- Leads a load for which a source is asked, one of those asked for. -/
def asks (sides : Side → Bool) : Phase Outcome Load → Bool
  | .leading _ load => load.asked?.any fun asked => sides asked.1
  | _ => false

variable {f since : Nat} {load : Load} {side : Side}

theorem isAhead_fresh : (leading f .fresh : Phase Outcome Load).isAhead = true := rfl

theorem asks_fresh (sides : Side → Bool) :
    (leading f .fresh : Phase Outcome Load).asks sides = false := rfl

theorem isAhead_of_asked (h : load.asked? = some (side, since)) :
    (leading f load : Phase Outcome Load).isAhead = false := by
  simp only [isAhead, h, Option.isNone_some]

theorem asks_of_asked (h : load.asked? = some (side, since)) (sides : Side → Bool) :
    (leading f load : Phase Outcome Load).asks sides = sides side := by
  simp only [asks, h, Option.any_some]

end Phase

namespace Traffic

variable {t t' : Traffic} {c f since bytes : Nat} {load : Load} {side : Side} {key name : String}
  {limit : Option Nat} {p q : Phase Outcome Load} {e : Event} {out : List Output}
  {ms : List (Moment Traffic Event)}

/-! ## Looks into the store -/

/-- **Every look into the store is counted on both sides.** -/
theorem Step.tallied (h : Step t e t' out) (tallied : t.group.Tallied) : t'.group.Tallied := by
  cases h with
  | hit hk hv => exact tallied.look
  | miss hk hv => exact tallied.look
  | found hc hv => exact tallied.lookAgain
  | ask hc hv => exact tallied.lookAgain
  | settle hc ha hr => exact tallied.receive
  | fallBack hc ha => exact tallied.receive
  | registerPeers hp =>
    obtain rfl := Group.eq_of_registerPeers hp
    exact ⟨tallied.hits, tallied.gets⟩
  | _ => exact ⟨tallied.hits, tallied.gets⟩

/-! ## Places in the store -/

/-- A value is counted when a source answers with it, and at no other time. -/
theorem Step.loaded (h : Step t e t' out) :
    (∃ side key value, t.call? e = some (side, key, .ok value)) ∧
        t'.group.loaded = t.group.loaded + 1 ∨
      (∀ side key value, t.call? e ≠ some (side, key, .ok value)) ∧
        t'.group.loaded = t.group.loaded := by
  cases h with
  | hit hk hv => exact .inr ⟨nofun, Group.loaded_look ..⟩
  | miss hk hv => exact .inr ⟨nofun, Group.loaded_look ..⟩
  | found hc hv => exact .inr ⟨nofun, Group.loaded_lookAgain ..⟩
  | ask hc hv => exact .inr ⟨nofun, Group.loaded_lookAgain ..⟩
  | @settle c f since key load side outcome hc ha hr =>
    have hcall : t.call? (.receive c outcome) = some (side, key, outcome) :=
      call?_of_leading hc ha
    cases outcome with
    | ok value => exact .inl ⟨⟨side, key, value, hcall⟩, Group.loaded_receive_ok⟩
    | error fault =>
      refine .inr ⟨?_, Group.loaded_receive_error⟩
      intro side' key' value h
      rw [hcall] at h
      cases h
  | @fallBack c f since key name text load hc ha =>
    have hcall : t.call? (.receive c (.error (.peer text))) =
        some (.peer name, key, .error (.peer text)) := call?_of_leading hc ha
    refine .inr ⟨?_, Group.loaded_receive_error⟩
    intro side' key' value h
    rw [hcall] at h
    cases h
  | registerPeers hp =>
    obtain rfl := Group.eq_of_registerPeers hp
    exact .inr ⟨nofun, rfl⟩
  | _ => exact .inr ⟨nofun, rfl⟩

/-- **Every value that a source answered is in the store or was evicted.** -/
theorem size_add_evictions (run : Run after? (ofGroup (.create name bytes limit)) ms t) :
    t.group.store.size + t.group.store.counts.evictions = t.group.loaded := by
  induction run with
  | nil =>
    have hempty : (Store.empty bytes).lru.Shows [] := .empty bytes
    exact congrArg (· + 0) (Store.Sound.size_eq hempty)
  | @snoc ms t t' e run he ih =>
    have step := step_of_after? he
    have sound := sound_of_run run
    rcases step.store with ⟨side, key, value, hcall, hstore⟩ | ⟨hno, hstore⟩
    · -- The store had nothing for the key, so the value takes a place of its own.
      have hnone : t.group.store.find? key = none :=
        absent_of_loaded (m := ⟨t, e, t'⟩) run (Moment.loaded?_of_call? hcall)
      have hsize := sound.store.size_add hnone value
      have hcounts : (t.group.store.add key value).1.counts.evictions =
          t.group.store.counts.evictions + (t.group.store.add key value).2.length := rfl
      rcases step.loaded with ⟨-, hloaded⟩ | ⟨hno, -⟩
      · rw [hstore, hloaded, hcounts]
        omega
      · exact absurd hcall (hno side key value)
    · rcases step.loaded with ⟨⟨side, key, value, hcall⟩, -⟩ | ⟨-, hloaded⟩
      · exact absurd hcall (hno side key value)
      · rw [hloaded, ← ih]
        rcases hstore with hsame | ⟨key, hget⟩
        · rw [hsame]
        · have hcounts : (t.group.store.get key).1.counts.evictions =
              t.group.store.counts.evictions := rfl
          rw [hget, hcounts, sound.store.size_get]

/-! ## Callers under way -/

/-- Every count of what became of lookups, with the callers who may still add to it, is covered by
the count of those who could. -/
structure Covered (t : Traffic) : Prop where
  gets : t.group.counters.cacheHits + t.group.counters.executions + t.gate.count Phase.isAhead ≤
    t.group.counters.gets
  answers : t.group.loaded + t.group.counters.localErrors +
    t.gate.count (Phase.asks fun _ => true) ≤ t.group.counters.executions
  fetches : t.group.counters.peerLoads + t.group.counters.peerErrors +
    t.gate.count (Phase.asks Side.isPeer) ≤ t.group.counters.executions

theorem Covered.ofGroup (name : String) (bytes : Nat) (limit : Option Nat) :
    (Traffic.ofGroup (.create name bytes limit)).Covered :=
  ⟨Nat.le_refl 0, Nat.le_refl 0, Nat.le_refl 0⟩

/-- Nothing is counted while a caller moves, and nobody gets to where more may be added. -/
theorem Covered.move {gate : Gate Outcome Load} (covered : t.Covered)
    (hc : t.gate.standing? c = some (key, p))
    (hcallers : gate.callers = (t.gate.setPhase c q).callers)
    (ahead : q.isAhead ≤ p.isAhead) (asks : ∀ sides, q.asks sides ≤ p.asks sides) :
    (t.withGate gate).Covered := by
  obtain ⟨gets, answers, fetches⟩ := covered
  have fewer : ∀ asked : Phase Outcome Load → Bool, asked q ≤ asked p →
      gate.count asked ≤ t.gate.count asked := by
    intro asked hle
    have hcount := Gate.count_setPhase (q := q) asked hc
    rw [Gate.count, hcallers]
    rw [Gate.count] at hcount
    by_cases hq : asked q = true
    · rw [if_pos hq, if_pos (hle hq)] at hcount
      omega
    · rw [if_neg hq] at hcount
      omega
  exact ⟨Nat.le_trans (Nat.add_le_add_left (fewer _ ahead) _) gets,
    Nat.le_trans (Nat.add_le_add_left (fewer _ (asks _)) _) answers,
    Nat.le_trans (Nat.add_le_add_left (fewer _ (asks _)) _) fetches⟩

/-- A leader's second look settles its lookup, or a load is executed and asks a source. -/
theorem Covered.lookAgain (covered : t.Covered)
    (hc : t.gate.standing? c = some (key, .leading f .fresh)) (ahead : p.isAhead = false)
    (asks : ∀ sides, p.asks sides → t.group.store.find? key = none) :
    Covered { t with group := (t.group.lookAgain key).1, gate := t.gate.setPhase c p } := by
  obtain ⟨gets, answers, fetches⟩ := covered
  have hcounters := Group.lookAgain_counters t.group key
  have hloaded := Group.loaded_lookAgain t.group key
  have hahead := Gate.count_setPhase (q := p) Phase.isAhead hc
  have hall := Gate.count_setPhase (q := p) (Phase.asks fun _ => true) hc
  have hpeers := Gate.count_setPhase (q := p) (Phase.asks Side.isPeer) hc
  rw [ahead, Phase.isAhead_fresh] at hahead
  -- Nobody asks a source before the second look.
  rw [Phase.asks_fresh] at hall hpeers
  simp only [if_true, Bool.false_eq_true, if_false, Nat.add_zero] at hahead hall hpeers
  cases hv : t.group.store.find? key with
  | none =>
    rw [hv] at hcounters
    constructor <;> simp only [hcounters, hloaded, Group.Counters.record, Option.isSome_none,
      Bool.false_eq_true, if_false]
    · omega
    · split at hall <;> omega
    · split at hpeers <;> omega
  | some value =>
    rw [hv] at hcounters asks
    have hno : ∀ sides, p.asks sides = false := fun sides =>
      Bool.eq_false_iff.mpr fun h => absurd (asks sides h) (Option.some_ne_none value)
    rw [hno, if_neg Bool.false_ne_true, Nat.add_zero] at hall hpeers
    constructor <;> simp only [hcounters, hloaded, Group.Counters.record, Option.isSome_some,
      if_true]
    · omega
    · rw [hall]
      exact answers
    · rw [hpeers]
      exact fetches

/-- A source's answer ends a load, or lets the loader be asked instead of a peer. -/
theorem Covered.receive {outcome : Outcome} (covered : t.Covered)
    (hc : t.gate.standing? c = some (key, .leading f load))
    (ha : load.asked? = some (side, since)) (ahead : p.isAhead = false)
    (asks : ∀ sides, p.asks sides =
      ((t.group.receive key side outcome).2.isNone && sides .loader)) :
    Covered { t with
      group := (t.group.receive key side outcome).1, gate := t.gate.setPhase c p } := by
  obtain ⟨gets, answers, fetches⟩ := covered
  obtain ⟨hanswers, hfetches, hgets, hhits, hexecutions⟩ :=
    Group.receive_counts t.group key side outcome
  have hahead := Gate.count_setPhase (q := p) Phase.isAhead hc
  have hall := Gate.count_setPhase (q := p) (Phase.asks fun _ => true) hc
  have hpeers := Gate.count_setPhase (q := p) (Phase.asks Side.isPeer) hc
  rw [ahead, Phase.isAhead_of_asked ha] at hahead
  rw [asks, Phase.asks_of_asked ha] at hall hpeers
  have hloader : Side.loader.isPeer = false := rfl
  simp only [hloader, Bool.and_true, Bool.and_false, Bool.false_eq_true, if_false, if_true]
    at hahead hall hpeers
  constructor <;> simp only [hgets, hhits, hexecutions]
  · omega
  · -- Either the answer is counted or the load goes on.
    cases hr : (t.group.receive key side outcome).2 <;> rw [hr] at hanswers hall <;>
      simp only [Option.isSome_none, Option.isSome_some, Option.isNone_none, Option.isNone_some,
        Bool.false_eq_true, if_false, if_true] at hanswers hall <;> omega
  · omega

/-- **Every step keeps the counts covered.** -/
theorem Covered.step (h : Step t e t' out) (sound : t.Sound) (covered : t.Covered) :
    t'.Covered := by
  cases h with
  | refuse => exact ⟨Nat.le_succ_of_le covered.gets, covered.answers, covered.fetches⟩
  | @hit key value hk hv =>
    obtain ⟨gets, answers, fetches⟩ := covered
    have hcounters := Group.look_counters (g := t.group) hk
    have hloaded := Group.loaded_look t.group key
    rw [hv] at hcounters
    constructor <;>
      simp only [hcounters, hloaded, Group.Counters.record, Option.isSome_some, if_true]
    · omega
    · exact answers
    · exact fetches
  | @miss key hk hv =>
    obtain ⟨gets, answers, fetches⟩ := covered
    have hcounters := Group.look_counters (g := t.group) hk
    have hloaded := Group.loaded_look t.group key
    rw [hv] at hcounters
    constructor <;> simp only [hcounters, hloaded, Group.Counters.record, Option.isSome_none,
      Gate.count_arrive, Phase.isAhead, Phase.asks]
    · simp only [Bool.false_eq_true, if_false, if_true]
      omega
    · exact answers
    · exact fetches
  | join hg =>
    cases hg with
    | board hc hr => exact covered.move hc rfl (Bool.le_true _) fun _ => Bool.false_le _
    | lead hc hr =>
      -- Whoever leads does what it brought along, and this is to look again.
      obtain rfl := (sound.callers _ _ hc).2
      exact covered.move (Gate.standing?_of_callers hc) rfl (Bool.le_true _) fun _ =>
        Bool.false_le _
  | found hc hv => exact covered.lookAgain hc rfl fun _ h => absurd h Bool.false_ne_true
  | ask hc hv => exact covered.lookAgain hc rfl fun _ _ => hv
  | hold hc => exact covered.move hc rfl (Bool.le_refl _) fun _ => Bool.le_refl _
  | settle hc ha hr => exact covered.receive hc ha rfl fun _ => by rw [hr]; rfl
  | fallBack hc ha => exact covered.receive hc ha rfl fun _ => rfl
  | expire hc hl ho => exact covered.move hc rfl (Bool.false_le _) fun _ => Bool.false_le _
  | publish hg =>
    cases hg with
    | publish hc => exact covered.move hc rfl (Bool.false_le _) fun _ => Bool.false_le _
  | retire hg =>
    cases hg with
    | retire hc => exact covered.move hc rfl (Bool.false_le _) fun _ => Bool.false_le _
  | wake hg =>
    cases hg with
    | hear hc hs => exact covered.move hc rfl (Bool.false_le _) fun _ => Bool.false_le _
    | startOver hc hs => exact covered.move hc rfl (Bool.le_true _) fun _ => Bool.false_le _
  | drop hg =>
    cases hg with
    | leave hc => exact covered.move hc rfl (Bool.false_le _) fun _ => Bool.false_le _
    | abandon hc => exact covered.move hc rfl (Bool.false_le _) fun _ => Bool.false_le _
  | tick => exact ⟨covered.gets, covered.answers, covered.fetches⟩
  | registerPeers hp =>
    obtain rfl := Group.eq_of_registerPeers hp
    exact ⟨covered.gets, covered.answers, covered.fetches⟩
  | countRequest => exact ⟨covered.gets, covered.answers, covered.fetches⟩

/-- **What became of lookups is covered in every state a run comes to.** -/
theorem covered_of_run (run : Run after? (ofGroup (.create name bytes limit)) ms t) :
    t.Covered := by
  induction run with
  | nil => exact .ofGroup name bytes limit
  | snoc run he ih => exact ih.step (step_of_after? he) (sound_of_run run)

theorem tallied_of_run (run : Run after? (ofGroup (.create name bytes limit)) ms t) :
    t.group.Tallied :=
  run.invariant (P := fun t => t.group.Tallied) ⟨rfl, rfl⟩ fun tallied he =>
    (step_of_after? he).tallied tallied

/-! ## The counts together -/

theorem reconciled_of_run (run : Run after? (ofGroup (.create name bytes limit)) ms t) :
    t.group.Reconciled where
  hits := (tallied_of_run run).hits
  gets := (tallied_of_run run).gets
  stored := size_add_evictions run
  looked := Nat.le_trans (Nat.le_add_right _ _) (covered_of_run run).gets
  answers := Nat.le_trans (Nat.le_add_right _ _) (covered_of_run run).answers
  fetches := Nat.le_trans (Nat.le_add_right _ _) (covered_of_run run).fetches

/-- **The counts of a group reconcile with its store**, whatever the order of steps, and also when
everybody has moved as far as the surroundings let them. -/
theorem counts_reconcile (run : Run after? (ofGroup (.create name bytes limit)) ms t) :
    t.group.Reconciled ∧ ∀ (w : Surroundings) (e : Event) (t' : Traffic) (out : List Output),
      t.play w e = some (t', out) → t'.group.Reconciled := by
  refine ⟨reconciled_of_run run, ?_⟩
  intro w e t' out h
  obtain ⟨ms', run'⟩ := exists_run_of_play h
  exact reconciled_of_run (run.append run')

/-- The leader of a load is dropped, the caller who waited takes the load over, its peer has trouble
and its loader answers; then one lookup is a hit, and another comes to its limit. -/
def storm : List Event :=
  [.registerPeers, .look "k", .join 0, .lookAgain 0 (some "p"), .hold 0, .look "k", .join 1,
    .drop 0, .wake 1, .join 1, .lookAgain 1 (some "p"), .receive 1 (.error (.peer "down")),
    .receive 1 (.ok ⟨[1]⟩), .publish 1, .retire 1, .look "k", .look "j", .join 2,
    .lookAgain 2 none, .hold 2, .tick 5, .expire 2]

theorem counts_reconcile_storm :
    (trail after? (ofGroup (.create "g" 10 (some 5))) storm).2.group.counters =
        { gets := 4, cacheHits := 1, loads := 3, executions := 3, peerErrors := 1,
          localLoads := 1 } ∧
      (trail after? (ofGroup (.create "g" 10 (some 5))) storm).2.group.Reconciled := by
  refine ⟨?_, (counts_reconcile (run_trail after? (ofGroup (.create "g" 10 (some 5))) storm)).1⟩
  cbv

end Traffic

end ReadThrough
