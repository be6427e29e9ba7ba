import ReadThrough.Group.Lookup
import ReadThrough.Proofs.Group.Steps

/-!
# The stages of a lookup

A lookup of a key that the store has is answered at once. Any other looks twice, asks a source, and
if that answers in time with a value, stores it and is answered with it. The loader is the last that
is asked. All along the group keeps its name, its limit and its peers, and what it has counted so far
has no bearing on what it answers.

## Main definitions

* `Reply.Gives limit value reply`: a source answers with a value, in time
* `Group.missed g key`, `Store.missed s key`: after two looks in vain
* `Group.serve loader g key`: a lookup in a group without peers
* `Group.loadedFrom g key side value`: after two looks in vain and an answer
* `Group.Touched g key value g'`: what the lookup of a key can do to a group

## Main results

* `Group.look_eq`, `Group.lead_of_absent`, `Group.resume_of_gives`: the stages
* `Group.get_of_found`, `Group.get_of_absent`, `Group.finish_loader`: whole lookups
* `Group.setup_get`: what no lookup changes
* `Group.get_record`: counting before a lookup or after it
* `Group.store_loadedFrom`: what a load makes of the store
* `Group.Touched.find?_cases`: where a value that the store has comes from
-/

namespace ReadThrough

namespace Store

variable {s : Store} {key k : String}

/-- A store that a lookup, and then the leader of the load, looked into in vain. -/
def missed (s : Store) (key : String) : Store := ((s.get key).1.get key).1

theorem Sound.missed (h : s.Sound) : (s.missed key).Sound := (h.get key).get key

theorem Sound.find?_missed (h : s.Sound) : (s.missed key).find? k = s.find? k :=
  ((h.get key).find?_get).trans h.find?_get

end Store

/-- A source answers with a value, before the limit is over. -/
def Reply.Gives (limit : Option Nat) (value : Value) : Reply → Prop
  | .now outcome => outcome = .ok value
  | .later ms outcome => outcome = .ok value ∧ ∀ l, limit = some l → ms ≤ l
  | .never => False

/-- A value that comes in time comes at all. -/
theorem Reply.Gives.of_limit {limit : Option Nat} {value : Value} {reply : Reply}
    (h : reply.Gives limit value) : reply.Gives none value := by
  cases reply with
  | now outcome => exact h
  | later ms outcome => exact ⟨h.1, nofun⟩
  | never => exact h

/-- The outcome of a lookup that is over. -/
def Stage.outcome? : Stage → Option Outcome
  | .answered outcome => some outcome
  | .asks _ _ => none
  | .stuck => none

namespace Group

variable {g : Group} {key : String} {side : Side} {answer : Outcome} {value : Value}
  {reply : Reply} {owner : Option String}

theorem firstSide_none (g : Group) : g.firstSide none = .loader := by
  unfold firstSide
  cases g.hasPeers <;> rfl

theorem firstSide_some (h : g.hasPeers = true) (name : String) :
    g.firstSide (some name) = .peer name := by
  rw [firstSide, h]
  rfl

/-! ## Stages -/

/-- A lookup is answered with what the store has for its key, if anything. -/
theorem look_eq (hk : key ≠ "") :
    g.look key = ((g.look key).1, (g.store.find? key).map .ok) :=
  Prod.ext rfl (look_snd hk)

/-- The leader of a load asks a source. -/
theorem lead_of_absent (h : g.store.find? key = none) :
    g.lead owner key = ((g.lookAgain key).1, .asks (g.firstSide owner) 0) := by
  have hs : (g.lookAgain key).2 = none := lookAgain_snd.trans h
  rw [lead, ← Prod.eta (g.lookAgain key), hs]
  dsimp only
  rw [firstSide_of_setup setup_lookAgain]

theorem receive_value : g.receive key side (.ok value) =
    ((g.receive key side (.ok value)).1, some (.ok value)) := by
  cases side <;> rfl

/-- A value that comes in time is the answer. -/
theorem resume_of_gives (h : reply.Gives g.limit value) : g.resume key side 0 reply =
    ((g.receive key side (.ok value)).1, .answered (.ok value)) := by
  have hdeliver : ∀ elapsed, g.deliver key side elapsed (.ok value) =
      ((g.receive key side (.ok value)).1, .answered (.ok value)) := by
    intro elapsed
    rw [deliver, receive_value]
  cases reply with
  | now outcome =>
    obtain rfl : outcome = .ok value := h
    exact hdeliver 0
  | later ms outcome =>
    obtain ⟨rfl, hin⟩ := h
    unfold resume
    cases hl : g.limit with
    | none => exact hdeliver (0 + ms)
    | some l =>
      have hle := hin l hl
      dsimp only
      rw [if_neg (by omega)]
      exact hdeliver (0 + ms)
  | never => exact h.elim

/-! ## Whole lookups -/

theorem setup_deliver {elapsed : Nat} : (g.deliver key side elapsed answer).1.setup = g.setup := by
  rw [deliver, ← Prod.eta (g.receive key side answer)]
  cases (g.receive key side answer).2 <;> exact setup_receive

theorem setup_resume {elapsed : Nat} : (g.resume key side elapsed reply).1.setup = g.setup := by
  unfold resume
  split
  · exact setup_deliver
  · split
    · split
      · rfl
      · exact setup_deliver
    · exact setup_deliver
  · split <;> rfl

theorem setup_finish {w : Surroundings} {n : Nat} {stage : Stage} :
    (g.finish w key n stage).1.setup = g.setup := by
  induction n generalizing g stage with
  | zero => cases stage <;> rfl
  | succ n ih =>
    cases stage with
    | answered outcome => rfl
    | stuck => rfl
    | asks side elapsed => exact ih.trans setup_resume

theorem setup_begin : (g.begin owner key).1.setup = g.setup := by
  rw [begin, ← Prod.eta (g.look key)]
  cases (g.look key).2 with
  | some outcome => exact setup_look
  | none =>
    dsimp only
    rw [lead, ← Prod.eta ((g.look key).1.lookAgain key)]
    cases ((g.look key).1.lookAgain key).2 <;> exact setup_lookAgain.trans setup_look

/-- A lookup leaves name, limit and peers as they are. -/
theorem setup_get (w : Surroundings) (g : Group) (key : String) :
    (g.get w key).1.setup = g.setup :=
  setup_finish.trans setup_begin

/-- A lookup without a key is refused. -/
theorem get_empty (w : Surroundings) (g : Group) : g.get w "" =
    ((g.look "").1, some (.error (.invalidKey "key is required")), []) := by
  rw [get, begin, look_empty]
  rfl

/-- A lookup of what the store has asks nobody. -/
theorem get_of_found (w : Surroundings) (hk : key ≠ "") (h : g.store.find? key = some value) :
    g.get w key = ((g.look key).1, some (.ok value), []) := by
  rw [get, begin, look_eq hk, h]
  rfl

/-- The group after two looks in vain. -/
def missed (g : Group) (key : String) : Group := ((g.look key).1.lookAgain key).1

theorem store_missed (hk : key ≠ "") : (g.missed key).store = g.store.missed key := by
  rw [missed, lookAgain_store, look_store hk]
  rfl

theorem setup_missed : (g.missed key).setup = g.setup := setup_lookAgain.trans setup_look

/-- A lookup of what the store does not have asks a source. -/
theorem get_of_absent (w : Surroundings) (hk : key ≠ "") (h : g.store.find? key = none) :
    g.get w key = (g.missed key).finish w key 2 (.asks (g.firstSide (w.owner? key)) 0) := by
  have hagain : (g.look key).1.store.find? key = none := by
    rw [look_store hk]
    exact Store.find?_get_of_none h
  rw [get, begin, look_eq hk, h, Option.map_none]
  dsimp only
  rw [lead_of_absent hagain, firstSide_of_setup setup_look]
  rfl

/-! ### Counting beforehand

What is counted before a lookup could as well be counted after it, because no lookup reads a count.
-/

theorem record_comm (g : Group) (c c' : Counter) :
    (g.record c).record c' = (g.record c').record c := by
  cases c <;> cases c' <;> rfl

variable {counter : Counter}

theorem look_record :
    (g.record counter).look key = Prod.map (·.record counter) id (g.look key) := by
  by_cases hk : key = ""
  · rw [look, look, if_pos hk, if_pos hk, record_comm]
    rfl
  · have hget : (g.record counter).store.get key = g.store.get key := rfl
    rw [look_of_ne hk, look_of_ne hk, hget, record_comm]
    rcases g.store.get key with ⟨store, _ | value⟩
    · exact Prod.ext (record_comm { g.record .gets with store } counter .loads) rfl
    · exact Prod.ext (record_comm { g.record .gets with store } counter .cacheHits) rfl

theorem lookAgain_record :
    (g.record counter).lookAgain key = Prod.map (·.record counter) id (g.lookAgain key) := by
  have hget : (g.record counter).store.get key = g.store.get key := rfl
  unfold lookAgain
  rw [hget]
  rcases g.store.get key with ⟨store, _ | value⟩
  · exact Prod.ext (record_comm { g with store } counter .executions) rfl
  · exact Prod.ext (record_comm { g with store } counter .cacheHits) rfl

theorem receive_record : (g.record counter).receive key side answer =
    Prod.map (·.record counter) id (g.receive key side answer) := by
  have hok : ∀ (c : Counter) (value : Value), ((g.record counter).record c).populate key value =
      ((g.record c).populate key value).record counter := by
    intro c value
    rw [record_comm]
    rfl
  rcases side with name | - <;> rcases answer with fault | value
  · unfold receive
    dsimp only
    split
    · exact Prod.ext (record_comm g counter .peerErrors) rfl
    · rfl
  · exact Prod.ext (hok .peerLoads value) rfl
  · exact Prod.ext (record_comm g counter .localErrors) rfl
  · exact Prod.ext (hok .localLoads value) rfl

theorem deliver_record {elapsed : Nat} : (g.record counter).deliver key side elapsed answer =
    Prod.map (·.record counter) id (g.deliver key side elapsed answer) := by
  rw [deliver, deliver, receive_record]
  rcases g.receive key side answer with ⟨g', _ | outcome⟩ <;> rfl

theorem resume_record {elapsed : Nat} : (g.record counter).resume key side elapsed reply =
    Prod.map (·.record counter) id (g.resume key side elapsed reply) := by
  have hlimit : (g.record counter).limit = g.limit := rfl
  unfold resume
  rw [hlimit]
  cases reply with
  | now answer => exact deliver_record
  | later ms answer =>
    cases g.limit with
    | none => exact deliver_record
    | some limit =>
      dsimp only
      split
      · rfl
      · exact deliver_record
  | never => cases g.limit <;> rfl

theorem finish_record {w : Surroundings} {n : Nat} {stage : Stage} :
    (g.record counter).finish w key n stage =
      Prod.map (·.record counter) id (g.finish w key n stage) := by
  induction n generalizing g stage with
  | zero => cases stage <;> rfl
  | succ n ih =>
    cases stage with
    | answered outcome => rfl
    | stuck => rfl
    | asks side elapsed =>
      rw [finish, finish, resume_record]
      rcases g.resume key side elapsed (w.ask side key) with ⟨g', stage⟩
      dsimp only [Prod.map, id]
      rw [ih]
      rfl

theorem begin_record : (g.record counter).begin owner key =
    Prod.map (·.record counter) id (g.begin owner key) := by
  rw [begin, begin, look_record]
  rcases g.look key with ⟨g', _ | outcome⟩
  · show (g'.record counter).lead owner key = Prod.map _ id (g'.lead owner key)
    rw [lead, lead, lookAgain_record]
    rcases g'.lookAgain key with ⟨g'', _ | value⟩ <;> rfl
  · rfl

/-- **A lookup goes the same way whatever has been counted before.** -/
theorem get_record (w : Surroundings) (g : Group) (key : String) (counter : Counter) :
    (g.record counter).get w key = Prod.map (·.record counter) id (g.get w key) := by
  rw [get, get, begin_record]
  exact finish_record

/-! ### The loader's answer -/

theorem deliver_loader (g : Group) (key : String) (elapsed : Nat) (answer : Outcome) :
    g.deliver key .loader elapsed answer = ((g.receive key .loader answer).1, .answered answer) := by
  cases answer <;> rfl

/-- Nobody is asked after the loader. -/
theorem resume_loader_ne_asks (g : Group) (key : String) (elapsed : Nat) (reply : Reply)
    (side : Side) (since : Nat) : (g.resume key .loader elapsed reply).2 ≠ .asks side since := by
  unfold resume
  split
  · rw [deliver_loader]
    exact nofun
  · split
    · split
      · exact nofun
      · rw [deliver_loader]
        exact nofun
    · rw [deliver_loader]
      exact nofun
  · split <;> exact nofun

/-- A lookup that asks the loader asks nobody else. -/
theorem finish_loader (w : Surroundings) (g : Group) (key : String) (n elapsed : Nat) :
    g.finish w key (n + 1) (.asks .loader elapsed) =
      ((g.resume key .loader elapsed (w.ask .loader key)).1,
        (g.resume key .loader elapsed (w.ask .loader key)).2.outcome?, [.loader]) := by
  have hne := resume_loader_ne_asks g key elapsed (w.ask .loader key)
  rw [finish, ← Prod.eta (g.resume key .loader elapsed (w.ask .loader key))]
  dsimp only
  generalize (g.resume key .loader elapsed (w.ask .loader key)).2 = stage at hne ⊢
  cases stage with
  | answered outcome => cases n <;> rfl
  | asks side since => exact absurd rfl (hne side since)
  | stuck => cases n <;> rfl

/-! ### Without peers -/

/-- A lookup in a group that has no peers. -/
def serve (loader : Loader) (g : Group) (key : String) : Group × Option Outcome × List Side :=
  g.get (.ofLoader loader) key

/-- A group without peers asks its loader for what its store does not have. -/
theorem serve_of_absent (loader : Loader) (hk : key ≠ "") (h : g.store.find? key = none) :
    g.serve loader key =
    (((g.missed key).resume key .loader 0 (loader key)).1,
      ((g.missed key).resume key .loader 0 (loader key)).2.outcome?, [.loader]) := by
  have howner : (Surroundings.ofLoader loader).owner? key = none := rfl
  rw [serve, get_of_absent _ hk h, howner, firstSide_none, finish_loader]
  rfl

/-! ## Loads -/

/-- The group after a lookup that found nothing and was answered with a value by a source. -/
def loadedFrom (g : Group) (key : String) (side : Side) (value : Value) : Group :=
  (((g.look key).1.lookAgain key).1.receive key side (.ok value)).1

theorem setup_loadedFrom : (g.loadedFrom key side value).setup = g.setup := by
  rw [loadedFrom, setup_receive, setup_lookAgain, setup_look]

theorem store_loadedFrom (hk : key ≠ "") :
    (g.loadedFrom key side value).store = ((g.store.missed key).add key value).1 := by
  rw [loadedFrom, receive_ok, lookAgain_store, look_store hk]
  rfl

/-! ## Lookups seen from outside -/

/-- What the lookup of a key can do to a group on its way: it looks into the store, or it fills in a
value that was not there. -/
inductive Touched (g : Group) (key : String) (value : Value) (g' : Group) : Prop where
  /-- The store answers as before. -/
  | looked (setup : g'.setup = g.setup) (sound : g'.store.Sound)
      (same : ∀ k, g'.store.find? k = g.store.find? k)
  /-- The value was missing, and is put into the store. -/
  | filled (setup : g'.setup = g.setup) (absent : g.store.find? key = none)
      (store : g'.store = ((g.store.missed key).add key value).1)

namespace Touched

variable {g' : Group} {k : String} {counter : Counter}

theorem refl (sound : g.store.Sound) : Touched g key value g := .looked rfl sound fun _ => rfl

theorem look (hk : key ≠ "") (sound : g.store.Sound) : Touched g key value (g.look key).1 := by
  refine .looked setup_look ?_ fun k => ?_
  · rw [look_store hk]
    exact sound.get key
  · rw [look_store hk, sound.find?_get]

theorem loadedFrom (hk : key ≠ "") (absent : g.store.find? key = none) :
    Touched g key value (g.loadedFrom key side value) :=
  .filled setup_loadedFrom absent (store_loadedFrom hk)

/-- A request counted before makes no difference. -/
theorem of_record (h : Touched (g.record counter) key value g') : Touched g key value g' := by
  cases h with
  | looked setup sound same => exact .looked setup sound same
  | filled setup absent store => exact .filled setup absent store

theorem setup_eq (h : Touched g key value g') : g'.setup = g.setup := by
  cases h with
  | looked setup => exact setup
  | filled setup => exact setup

theorem sound (h : Touched g key value g') (sound : g.store.Sound) : g'.store.Sound := by
  cases h with
  | looked _ sound' => exact sound'
  | filled _ _ store =>
    rw [store]
    exact sound.missed.add key value

/-- What the store has then, it had before, or it is the value looked up. -/
theorem find?_cases (h : Touched g key value g') (sound : g.store.Sound) {x : Value}
    (hx : g'.store.find? k = some x) :
    g.store.find? k = some x ∨ k = key ∧ x = value := by
  cases h with
  | looked _ _ same => exact .inl ((same k).symm.trans hx)
  | filled _ _ store =>
    rw [store, sound.missed.find?_add] at hx
    split at hx
    · cases hx
    · split at hx
      · rename_i hk
        exact .inr ⟨hk, (Option.some.inj hx).symm⟩
      · rw [sound.find?_missed] at hx
        exact .inl hx

/-- What the store had, it has then, unless the value evicted it. -/
theorem evicted_or_isSome (h : Touched g key value g') (sound : g.store.Sound)
    (hk : (g.store.find? k).isSome) : (g'.store.find? k).isSome ∨
      g'.store = ((g.store.missed key).add key value).1 ∧
        k ∈ ((g.store.missed key).add key value).2.map (·.key) := by
  cases h with
  | looked _ _ same =>
    left
    rw [same]
    exact hk
  | filled _ _ store =>
    have hmissed : (g.store.missed key).find? k = g.store.find? k := sound.find?_missed
    rw [← hmissed] at hk
    rcases sound.missed.evicted_or_isSome_add (.inr hk) with hout | hin
    · exact .inr ⟨store, hout⟩
    · left
      rw [store]
      exact hin

end Touched

end Group

end ReadThrough
