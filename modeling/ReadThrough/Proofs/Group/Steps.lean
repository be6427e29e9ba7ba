import ReadThrough.Group.Traffic
import ReadThrough.Proofs.Flight.Sound
import ReadThrough.Proofs.Store.Contents

/-!
# What a step of the traffic does

A step of the traffic is a look into the store, an answer of a source, or a step of the gate that
goes with it. `Traffic.Step` lists what each event can do. Seen from the gate it is one step of the
gate or none; seen from the store it is a lookup, an insertion or nothing.

## Main definitions

* `Group.setup g`: what no step but the registration of peers changes
* `Traffic.after? t e`, `Traffic.shown t e`: the traffic after an event, and what can be seen of it
* `Traffic.call? t e`: the call of a source that an event completes
* `Traffic.Step t e t' out`: all that an event can do

## Main results

* `Traffic.step_of_after?`: a possible event does one of the things listed
* `Traffic.Step.gate`: the gate takes a step or stays
* `Traffic.Step.store`: the store is looked into, or a value is stored, or nothing happens
-/

namespace ReadThrough

/-! ## Operations of a group -/

namespace Group

variable {g : Group} {key k : String} {side : Side} {answer outcome : Outcome} {value : Value}

theorem look_empty : g.look "" =
    (g.record .gets, some (.error (.invalidKey "key is required"))) := rfl

/-- A lookup of a key looks into the store. -/
theorem look_of_ne (hk : key ≠ "") : g.look key =
    match g.store.get key with
    | (store, some value) => ({ g.record .gets with store }.record .cacheHits, some (.ok value))
    | (store, none) => ({ g.record .gets with store }.record .loads, none) := by
  rw [look, if_neg hk]
  rfl

/-- A lookup of a key is answered if the store has a value for it. -/
theorem look_snd (hk : key ≠ "") : (g.look key).2 = (g.store.find? key).map .ok := by
  rw [look_of_ne hk, Store.find?]
  rcases g.store.get key with ⟨store, _ | value⟩ <;> rfl

theorem look_store (hk : key ≠ "") : (g.look key).1.store = (g.store.get key).1 := by
  rw [look_of_ne hk]
  rcases g.store.get key with ⟨store, _ | value⟩ <;> rfl

theorem lookAgain_snd : (g.lookAgain key).2 = g.store.find? key := by
  rw [lookAgain, Store.find?]
  rcases g.store.get key with ⟨store, _ | value⟩ <;> rfl

theorem lookAgain_store : (g.lookAgain key).1.store = (g.store.get key).1 := by
  rw [lookAgain]
  rcases g.store.get key with ⟨store, _ | value⟩ <;> rfl

/-- The outcome of a load is the answer of the source it asked last. -/
theorem receive_eq_some (h : (g.receive key side answer).2 = some outcome) : outcome = answer := by
  unfold receive at h
  split at h
  · exact (Option.some.inj h).symm
  · split at h
    · cases h
    · exact (Option.some.inj h).symm
  · exact (Option.some.inj h).symm
  · exact (Option.some.inj h).symm

/-- The loader is asked next only because a peer had trouble. -/
theorem receive_eq_none (h : (g.receive key side answer).2 = none) :
    ∃ name text, side = .peer name ∧ answer = .error (.peer text) := by
  unfold receive at h
  split at h
  · cases h
  · rename_i name fault
    split at h
    · rename_i hr
      cases fault with
      | peer text => exact ⟨name, text, rfl, rfl⟩
      | _ => cases hr
    · cases h
  · cases h
  · cases h

/-- A value that a source answers is stored. -/
theorem receive_ok : (g.receive key side (.ok value)).1.store = (g.store.add key value).1 := by
  cases side <;> rfl

/-- A fault leaves the store as it is. -/
theorem receive_error {fault : Fault} :
    (g.receive key side (.error fault)).1.store = g.store := by
  unfold receive
  split
  · contradiction
  · split <;> rfl
  · contradiction
  · rfl

/-! ### What stays -/

/-- What no lookup changes: name, limit, and whether there are peers. -/
def setup (g : Group) : String × Option Nat × Bool := (g.name, g.limit, g.hasPeers)

theorem name_of_setup {g' : Group} (h : g'.setup = g.setup) : g'.name = g.name :=
  congrArg Prod.fst h

theorem limit_of_setup {g' : Group} (h : g'.setup = g.setup) : g'.limit = g.limit :=
  congrArg (·.2.1) h

theorem hasPeers_of_setup {g' : Group} (h : g'.setup = g.setup) : g'.hasPeers = g.hasPeers :=
  congrArg (·.2.2) h

theorem firstSide_of_setup {g' : Group} (h : g'.setup = g.setup) (owner : Option String) :
    g'.firstSide owner = g.firstSide owner := by
  rw [firstSide, hasPeers_of_setup h, firstSide]

theorem setup_look : (g.look key).1.setup = g.setup := by
  by_cases hk : key = ""
  · rw [look, if_pos hk]
    rfl
  · rw [look_of_ne hk]
    rcases g.store.get key with ⟨store, _ | value⟩ <;> rfl

theorem setup_lookAgain : (g.lookAgain key).1.setup = g.setup := by
  rw [lookAgain]
  rcases g.store.get key with ⟨store, _ | value⟩ <;> rfl

theorem setup_receive : (g.receive key side answer).1.setup = g.setup := by
  unfold receive
  split
  · rfl
  · split <;> rfl
  · rfl
  · rfl

theorem eq_of_registerPeers {g' : Group} (h : g.registerPeers = .ok g') :
    g' = { g with hasPeers := true } := by
  unfold registerPeers at h
  split at h
  · cases h
  · exact (Except.ok.inj h).symm

end Group

namespace Traffic

/-! ## Steps -/

/-- The traffic after an event, if the event is possible. -/
def after? (t : Traffic) (e : Event) : Option Traffic := (t.step? e).map Prod.fst

/-- What can be seen of an event. -/
def shown (t : Traffic) (e : Event) : List Output := ((t.step? e).map Prod.snd).getD []

/-- The call of a source that an event completes: the source, the key and the answer. -/
def call? (t : Traffic) : Event → Option (Side × String × Outcome)
  | .receive c answer =>
    (t.leading? c).bind fun (key, load) => load.asked?.map fun (side, _) => (side, key, answer)
  | _ => none

/-- All that an event can do, and what can be seen of it. -/
inductive Step (t : Traffic) : Event → Traffic → List Output → Prop where
  /-- A lookup without a key is refused. -/
  | refuse : Step t (.look "") { t with group := t.group.record .gets }
      [.answered "" (.error (.invalidKey "key is required"))]
  /-- A lookup is answered from the store. -/
  | hit {key : String} {value : Value} (hk : key ≠ "")
      (hv : t.group.store.find? key = some value) :
      Step t (.look key) { t with group := (t.group.look key).1 } [.answered key (.ok value)]
  /-- A lookup has to be loaded. -/
  | miss {key : String} (hk : key ≠ "") (hv : t.group.store.find? key = none) :
      Step t (.look key)
        { t with group := (t.group.look key).1, gate := t.gate.arrive key .fresh } []
  /-- A caller joins a flight or leads one. -/
  | join {c : Nat} {gate : Gate Outcome Load} (hg : t.gate.Step (.join c) gate) :
      Step t (.join c) (t.withGate gate) []
  /-- A leader finds the value in the store. -/
  | found {c f : Nat} {key : String} {value : Value} {owner : Option String}
      (hc : t.gate.standing? c = some (key, .leading f .fresh))
      (hv : t.group.store.find? key = some value) :
      Step t (.lookAgain c owner)
        { t with
          group := (t.group.lookAgain key).1
          gate := t.gate.setPhase c (.settled f (.ok value)) } []
  /-- A leader asks the first source. -/
  | ask {c f : Nat} {key : String} {owner : Option String}
      (hc : t.gate.standing? c = some (key, .leading f .fresh))
      (hv : t.group.store.find? key = none) :
      Step t (.lookAgain c owner)
        { t with
          group := (t.group.lookAgain key).1
          gate := t.gate.setPhase c (.leading f (.asking (t.group.firstSide owner) t.now)) }
        [.asked (t.group.firstSide owner) key]
  /-- A source keeps a leader waiting. -/
  | hold {c f since : Nat} {key : String} {side : Side}
      (hc : t.gate.standing? c = some (key, .leading f (.asking side since))) :
      Step t (.hold c) (t.withGate (t.gate.setPhase c (.leading f (.awaiting side since)))) []
  /-- A source answers, and the load is over. -/
  | settle {c f since : Nat} {key : String} {load : Load} {side : Side} {outcome : Outcome}
      (hc : t.gate.standing? c = some (key, .leading f load))
      (ha : load.asked? = some (side, since))
      (hr : (t.group.receive key side outcome).2 = some outcome) :
      Step t (.receive c outcome)
        { t with
          group := (t.group.receive key side outcome).1
          gate := t.gate.setPhase c (.settled f outcome) } []
  /-- A peer had trouble, and the loader is asked instead. -/
  | fallBack {c f since : Nat} {key name text : String} {load : Load}
      (hc : t.gate.standing? c = some (key, .leading f load))
      (ha : load.asked? = some (.peer name, since)) :
      Step t (.receive c (.error (.peer text)))
        { t with
          group := (t.group.receive key (.peer name) (.error (.peer text))).1
          gate := t.gate.setPhase c (.leading f (.asking .loader since)) }
        [.asked .loader key]
  /-- The limit of a load is over. -/
  | expire {c f since limit : Nat} {key : String} {side : Side}
      (hc : t.gate.standing? c = some (key, .leading f (.awaiting side since)))
      (hl : t.group.limit = some limit) (ho : t.isOver since) :
      Step t (.expire c) (t.withGate (t.gate.setPhase c (.settled f (Group.overdue key limit)))) []
  /-- A leader publishes its outcome. -/
  | publish {c : Nat} {gate : Gate Outcome Load} (hg : t.gate.Step (.publish c) gate) :
      Step t (.publish c) (t.withGate gate) []
  /-- A leader retires its flight's record and is answered. -/
  | retire {c : Nat} {gate : Gate Outcome Load} (hg : t.gate.Step (.retire c) gate) :
      Step t (.retire c) (t.withGate gate) ((t.withGate gate).answer? c)
  /-- A waiting caller is answered, or starts over. -/
  | wake {c : Nat} {gate : Gate Outcome Load} (hg : t.gate.Step (.wake c) gate) :
      Step t (.wake c) (t.withGate gate) ((t.withGate gate).answer? c)
  /-- A caller is dropped. -/
  | drop {c : Nat} {gate : Gate Outcome Load} (hg : t.gate.Step (.drop c) gate) :
      Step t (.drop c) (t.withGate gate) []
  /-- Time passes. -/
  | tick {ms : Nat} : Step t (.tick ms) { t with now := t.now + ms } []
  /-- Peers are registered. -/
  | registerPeers {group : Group} (hp : t.group.registerPeers = .ok group) :
      Step t .registerPeers { t with group } []
  /-- A request of a peer is counted. -/
  | countRequest : Step t .countRequest { t with group := t.group.record .serverRequests } []

section Inversion

variable {t t' : Traffic} {c : Nat} {key : String} {load : Load} {out : List Output} {e : Event}

theorem leading?_eq_some_iff : t.leading? c = some (key, load) ↔
    ∃ f, t.gate.standing? c = some (key, .leading f load) := by
  constructor
  · intro h
    obtain ⟨⟨k, work, phase⟩, hc, hp⟩ := Option.bind_eq_some_iff.mp h
    cases phase with
    | leading f load' =>
      obtain ⟨rfl, rfl⟩ := Prod.mk.inj (Option.some.inj hp)
      exact ⟨f, Gate.standing?_of_callers hc⟩
    | _ => cases hp
  · rintro ⟨f, h⟩
    obtain ⟨work, hc⟩ := Gate.exists_callers_of_standing? h
    rw [leading?, hc]
    rfl

theorem call?_of_leading {f since : Nat} {side : Side} {outcome : Outcome}
    (hc : t.gate.standing? c = some (key, .leading f load))
    (ha : load.asked? = some (side, since)) :
    t.call? (.receive c outcome) = some (side, key, outcome) := by
  simp [call?, leading?_eq_some_iff.mpr ⟨f, hc⟩, ha]

theorem call?_eq_some_iff {side : Side} {outcome : Outcome} :
    t.call? e = some (side, key, outcome) ↔ ∃ c f load since, e = .receive c outcome ∧
      t.gate.standing? c = some (key, .leading f load) ∧ load.asked? = some (side, since) := by
  constructor
  · intro h
    cases e with
    | receive c answer =>
      obtain ⟨⟨k, load⟩, hl, h⟩ := Option.bind_eq_some_iff.mp h
      obtain ⟨⟨side', since⟩, ha, h⟩ := Option.map_eq_some_iff.mp h
      obtain ⟨f, hc⟩ := leading?_eq_some_iff.mp hl
      obtain ⟨rfl, rfl, rfl⟩ : side' = side ∧ k = key ∧ answer = outcome := by simpa using h
      exact ⟨c, f, load, since, rfl, hc, ha⟩
    | _ => cases h
  · rintro ⟨c, f, load, since, rfl, hc, ha⟩
    exact call?_of_leading hc ha

theorem settle?_of_leading {f : Nat} {outcome : Outcome}
    (h : t.gate.standing? c = some (key, .leading f load)) :
    t.gate.settle? c outcome = some (t.gate.setPhase c (.settled f outcome)) := by
  obtain ⟨work, hc⟩ := Gate.exists_callers_of_standing? h
  rw [Gate.settle?, hc]

theorem proceed?_of_leading {f : Nat} {load' : Load}
    (h : t.gate.standing? c = some (key, .leading f load)) :
    t.gate.proceed? c load' = some (t.gate.setPhase c (.leading f load')) := by
  obtain ⟨work, hc⟩ := Gate.exists_callers_of_standing? h
  rw [Gate.proceed?, hc]

theorem step_of_look (h : t.look key = (t', out)) : Step t (.look key) t' out := by
  by_cases hk : key = ""
  · subst hk
    rw [look, Group.look_empty] at h
    obtain ⟨rfl, rfl⟩ := Prod.mk.inj h
    exact .refuse
  · have hs := Group.look_snd (g := t.group) hk
    rw [look, ← Prod.eta (t.group.look key), hs] at h
    cases hv : t.group.store.find? key with
    | none =>
      rw [hv] at h
      obtain ⟨rfl, rfl⟩ := Prod.mk.inj h
      exact .miss hk hv
    | some value =>
      rw [hv] at h
      obtain ⟨rfl, rfl⟩ := Prod.mk.inj h
      exact .hit hk hv

theorem step_of_lookAgain? {owner : Option String} (h : t.lookAgain? c owner = some (t', out)) :
    Step t (.lookAgain c owner) t' out := by
  unfold lookAgain? at h
  cases hl : t.leading? c with
  | none => simp [hl] at h
  | some x =>
    obtain ⟨key, load⟩ := x
    obtain ⟨f, hc⟩ := leading?_eq_some_iff.mp hl
    -- Only a load that has not begun yet looks again.
    cases load with
    | fresh =>
      have hs : (t.group.lookAgain key).2 = t.group.store.find? key := Group.lookAgain_snd
      simp only [hl, Option.bind_eq_bind, Option.bind_some] at h
      rw [← Prod.eta (t.group.lookAgain key), hs] at h
      cases hv : t.group.store.find? key with
      | none =>
        simp only [hv, proceed?_of_leading hc, Option.bind_some, Option.pure_def,
          Option.some.injEq, Prod.mk.injEq] at h
        obtain ⟨rfl, rfl⟩ := h
        rw [Group.firstSide_of_setup Group.setup_lookAgain]
        exact .ask hc hv
      | some value =>
        simp only [hv, settle?_of_leading hc, Option.bind_some, Option.pure_def,
          Option.some.injEq, Prod.mk.injEq] at h
        obtain ⟨rfl, rfl⟩ := h
        exact .found hc hv
    | _ => simp [hl] at h

theorem step_of_hold? (h : t.hold? c = some (t', out)) : Step t (.hold c) t' out := by
  unfold hold? at h
  cases hl : t.leading? c with
  | none => simp [hl] at h
  | some x =>
    obtain ⟨key, load⟩ := x
    obtain ⟨f, hc⟩ := leading?_eq_some_iff.mp hl
    cases load with
    | asking side since =>
      simp only [hl, proceed?_of_leading hc, Option.bind_eq_bind, Option.bind_some,
        Option.pure_def, Option.some.injEq, Prod.mk.injEq] at h
      obtain ⟨rfl, rfl⟩ := h
      exact .hold hc
    | _ => simp [hl] at h

theorem step_of_receive? {answer : Outcome} (h : t.receive? c answer = some (t', out)) :
    Step t (.receive c answer) t' out := by
  unfold receive? at h
  cases hl : t.leading? c with
  | none => simp [hl] at h
  | some x =>
    obtain ⟨key, load⟩ := x
    obtain ⟨f, hc⟩ := leading?_eq_some_iff.mp hl
    cases ha : load.asked? with
    | none => simp [hl, ha] at h
    | some y =>
      obtain ⟨side, since⟩ := y
      simp only [hl, ha, Option.bind_eq_bind, Option.bind_some] at h
      -- The group either settles the load with this answer, or asks the loader next.
      rw [← Prod.eta (t.group.receive key side answer)] at h
      cases hr : (t.group.receive key side answer).2 with
      | none =>
        obtain ⟨name, text, rfl, rfl⟩ := Group.receive_eq_none hr
        simp only [hr, proceed?_of_leading hc, Option.bind_some, Option.pure_def,
          Option.some.injEq, Prod.mk.injEq] at h
        obtain ⟨rfl, rfl⟩ := h
        exact .fallBack hc ha
      | some outcome =>
        obtain rfl := Group.receive_eq_some hr
        simp only [hr, settle?_of_leading hc, Option.bind_some, Option.pure_def,
          Option.some.injEq, Prod.mk.injEq] at h
        obtain ⟨rfl, rfl⟩ := h
        exact .settle hc ha hr

theorem step_of_expire? (h : t.expire? c = some (t', out)) : Step t (.expire c) t' out := by
  unfold expire? at h
  cases hl : t.leading? c with
  | none => simp [hl] at h
  | some x =>
    obtain ⟨key, load⟩ := x
    obtain ⟨f, hc⟩ := leading?_eq_some_iff.mp hl
    cases load with
    | awaiting side since =>
      cases hlim : t.group.limit with
      | none => simp [hl, hlim] at h
      | some limit =>
        by_cases ho : t.isOver since = true
        · simp only [hl, hlim, ho, if_true, settle?_of_leading hc, Option.bind_eq_bind,
            Option.bind_some, Option.pure_def, Option.some.injEq, Prod.mk.injEq] at h
          obtain ⟨rfl, rfl⟩ := h
          exact .expire hc hlim ho
        · simp [hl, hlim, ho] at h
    | _ => simp [hl] at h

/-- **A possible event does one of the things listed.** -/
theorem step_of_step? (h : t.step? e = some (t', out)) : Step t e t' out := by
  cases e with
  | look key => exact step_of_look (Option.some.inj h)
  | join c =>
    obtain ⟨gate, hg, he⟩ := Option.map_eq_some_iff.mp h
    obtain ⟨rfl, rfl⟩ := Prod.mk.inj he
    exact .join (Gate.step_of_step? hg)
  | lookAgain c owner => exact step_of_lookAgain? h
  | hold c => exact step_of_hold? h
  | receive c answer => exact step_of_receive? h
  | expire c => exact step_of_expire? h
  | publish c =>
    obtain ⟨gate, hg, he⟩ := Option.map_eq_some_iff.mp h
    obtain ⟨rfl, rfl⟩ := Prod.mk.inj he
    exact .publish (Gate.step_of_step? hg)
  | retire c =>
    obtain ⟨gate, hg, he⟩ := Option.map_eq_some_iff.mp h
    obtain ⟨rfl, rfl⟩ := Prod.mk.inj he
    exact .retire (Gate.step_of_step? hg)
  | wake c =>
    obtain ⟨gate, hg, he⟩ := Option.map_eq_some_iff.mp h
    obtain ⟨rfl, rfl⟩ := Prod.mk.inj he
    exact .wake (Gate.step_of_step? hg)
  | drop c =>
    simp only [step?, drop?] at h
    split at h
    · obtain ⟨gate, hg, he⟩ := Option.map_eq_some_iff.mp h
      obtain ⟨rfl, rfl⟩ := Prod.mk.inj he
      exact .drop (Gate.step_of_step? hg)
    · cases h
  | tick ms =>
    obtain ⟨rfl, rfl⟩ := Prod.mk.inj (Option.some.inj h)
    exact .tick
  | registerPeers =>
    obtain ⟨group, hp, he⟩ := Option.map_eq_some_iff.mp h
    obtain ⟨rfl, rfl⟩ := Prod.mk.inj he
    cases hr : t.group.registerPeers with
    | error fault => simp [hr, Except.toOption] at hp
    | ok group' =>
      obtain rfl : group' = group := by simpa [hr, Except.toOption] using hp
      exact .registerPeers hr
  | countRequest =>
    obtain ⟨rfl, rfl⟩ := Prod.mk.inj (Option.some.inj h)
    exact .countRequest

theorem step_of_after? (h : t.after? e = some t') : Step t e t' (t.shown e) := by
  obtain ⟨⟨t', out⟩, hs, rfl⟩ := Option.map_eq_some_iff.mp h
  have hshown : t.shown e = out := by rw [shown, hs]; rfl
  rw [hshown]
  exact step_of_step? hs

end Inversion

/-! ## A step seen from the gate, the store and a caller -/

section Views

variable {t t' : Traffic} {c d : Nat} {key : String} {out : List Output} {e : Event}

/-- The gate takes a step, or stays as it is; whoever comes to it looks a key up, and nothing is
done about it yet. -/
theorem Step.gate (h : Step t e t' out) : t'.gate = t.gate ∨ ∃ ge, t.gate.Step ge t'.gate ∧
    ∀ key load, ge = .arrive key load → e = .look key ∧ key ≠ "" ∧ load = .fresh := by
  cases h with
  | miss hk hv =>
    refine .inr ⟨_, .arrive _ _, fun key load he => ?_⟩
    obtain ⟨rfl, rfl⟩ := Gate.Event.arrive.inj he
    exact ⟨rfl, hk, rfl⟩
  | join hg => exact .inr ⟨_, hg, by simp⟩
  | found hc hv => exact .inr ⟨_, .settle hc, by simp⟩
  | ask hc hv => exact .inr ⟨_, .proceed hc, by simp⟩
  | hold hc => exact .inr ⟨_, .proceed hc, by simp⟩
  | settle hc ha hr => exact .inr ⟨_, .settle hc, by simp⟩
  | fallBack hc ha => exact .inr ⟨_, .proceed hc, by simp⟩
  | expire hc hl ho => exact .inr ⟨_, .settle hc, by simp⟩
  | publish hg => exact .inr ⟨_, hg, by simp⟩
  | retire hg => exact .inr ⟨_, hg, by simp⟩
  | wake hg => exact .inr ⟨_, hg, by simp⟩
  | drop hg => exact .inr ⟨_, hg, by simp⟩
  | _ => exact .inl rfl

/-- The store is looked into or stays as it is, but for a value that a source answered, which is
stored. -/
theorem Step.store (h : Step t e t' out) :
    (∃ side key value, t.call? e = some (side, key, .ok value) ∧
        t'.group.store = (t.group.store.add key value).1) ∨
      (∀ side key value, t.call? e ≠ some (side, key, .ok value)) ∧
        (t'.group.store = t.group.store ∨ ∃ key, t'.group.store = (t.group.store.get key).1) := by
  cases h with
  | hit hk hv => exact .inr ⟨nofun, .inr ⟨_, Group.look_store hk⟩⟩
  | miss hk hv => exact .inr ⟨nofun, .inr ⟨_, Group.look_store hk⟩⟩
  | found hc hv => exact .inr ⟨nofun, .inr ⟨_, Group.lookAgain_store⟩⟩
  | ask hc hv => exact .inr ⟨nofun, .inr ⟨_, Group.lookAgain_store⟩⟩
  | @settle c f since key load side outcome hc ha hr =>
    have hcall : t.call? (.receive c outcome) = some (side, key, outcome) :=
      call?_of_leading hc ha
    cases outcome with
    | ok value => exact .inl ⟨side, key, value, hcall, Group.receive_ok⟩
    | error fault =>
      refine .inr ⟨fun side' key' value h => ?_, .inl Group.receive_error⟩
      rw [hcall] at h
      cases h
  | @fallBack c f since key name text load hc ha =>
    have hcall : t.call? (.receive c (.error (.peer text))) =
        some (.peer name, key, .error (.peer text)) := call?_of_leading hc ha
    refine .inr ⟨fun side' key' value h => ?_, .inl Group.receive_error⟩
    rw [hcall] at h
    cases h
  | registerPeers hp =>
    obtain rfl := Group.eq_of_registerPeers hp
    exact .inr ⟨nofun, .inl rfl⟩
  | _ => exact .inr ⟨nofun, .inl rfl⟩

theorem Step.limit (h : Step t e t' out) : t'.group.limit = t.group.limit := by
  cases h with
  | hit hk hv => exact Group.limit_of_setup Group.setup_look
  | miss hk hv => exact Group.limit_of_setup Group.setup_look
  | found hc hv => exact Group.limit_of_setup Group.setup_lookAgain
  | ask hc hv => exact Group.limit_of_setup Group.setup_lookAgain
  | settle hc ha hr => exact Group.limit_of_setup Group.setup_receive
  | fallBack hc ha => exact Group.limit_of_setup Group.setup_receive
  | registerPeers hp =>
    obtain rfl := Group.eq_of_registerPeers hp
    rfl
  | _ => rfl

/-- What can be seen can happen. -/
theorem exists_step_of_shown {x : Output} (h : x ∈ t.shown e) : ∃ t', Step t e t' (t.shown e) := by
  cases hs : t.step? e with
  | none => simp [shown, hs] at h
  | some y => exact ⟨y.1, step_of_after? (by rw [after?, hs]; rfl)⟩

theorem asked_not_mem_answer? {side : Side} : .asked side key ∉ t.answer? c := by
  intro h
  obtain ⟨x, -, hx⟩ := Option.bind_eq_some_iff.mp (Option.mem_toList.mp h)
  obtain ⟨outcome, -, ho⟩ := Option.map_eq_some_iff.mp hx
  cases ho

/-- **Who asks a source, and which**: a leader that found nothing in the store, and a leader whose
peer had trouble, which asks the loader. -/
theorem asked_of_shown {side : Side} (h : .asked side key ∈ t.shown e) :
    (∃ c f owner, e = .lookAgain c owner ∧ side = t.group.firstSide owner ∧
        t.gate.standing? c = some (key, .leading f .fresh) ∧ t.group.store.find? key = none) ∨
      ∃ c f load peer since text, e = .receive c (.error (.peer text)) ∧ side = .loader ∧
        t.gate.standing? c = some (key, .leading f load) ∧
        load.asked? = some (.peer peer, since) := by
  -- All other steps show nothing, or answers.
  obtain ⟨t', step⟩ := exists_step_of_shown h
  generalize t.shown e = out at h step
  cases step with
  | @ask c f k owner hc hv =>
    obtain ⟨rfl, rfl⟩ := Output.asked.inj (List.mem_singleton.mp h)
    exact .inl ⟨c, f, owner, rfl, rfl, hc, hv⟩
  | @fallBack c f since k peer text load hc ha =>
    obtain ⟨rfl, rfl⟩ := Output.asked.inj (List.mem_singleton.mp h)
    exact .inr ⟨c, f, load, peer, since, text, rfl, rfl, hc, ha⟩
  | refuse => cases List.mem_singleton.mp h
  | hit hk hv => cases List.mem_singleton.mp h
  | retire hg => exact absurd h asked_not_mem_answer?
  | wake hg => exact absurd h asked_not_mem_answer?
  | _ => cases h

end Views

end Traffic

end ReadThrough
