import Mathlib
import ReadThrough.Proofs.Group.Sound

/-!
# No redundant load

A source is asked for a key only while the store has nothing for it and nobody else leads a load of
it, whatever the order of steps. The leader of a load makes sure by its second look into the store;
from then on nobody else can store a value for its key, because whoever came later waits for it.

So the loads of a key balance its evictions: of the values that sources answered, all but the one
the store still holds were evicted again.

## Main definitions

* `Moment.loaded?`, `Moment.evicted`: the key of a load that succeeds, and the keys this evicts
* `Traffic.loads ms key`, `Traffic.evictions ms key`: how often either happened to a key

## Main results

* `Traffic.absent_of_asked`: while a source is asked for a key the store has nothing for it
* `Traffic.loads_eq`: loads of a key balance its evictions
* `Traffic.no_redundant_load`: a source is asked only if need be
-/

namespace ReadThrough

namespace Moment

/-- The key for which a source answers with a value, which is stored. -/
def loaded? (m : Moment Traffic Traffic.Event) : Option String :=
  match m.before.call? m.event with
  | some (_, key, .ok _) => some key
  | _ => none

/-- The keys that are evicted to make room for it. -/
def evicted (m : Moment Traffic Traffic.Event) : List String :=
  match m.before.call? m.event with
  | some (_, key, .ok value) => (m.before.group.store.add key value).2.map (·.key)
  | _ => []

variable {m : Moment Traffic Traffic.Event} {key : String} {value : Value} {side : Side}

theorem loaded?_of_call? (h : m.before.call? m.event = some (side, key, .ok value)) :
    m.loaded? = some key := by
  simp [loaded?, h]

theorem evicted_of_call? (h : m.before.call? m.event = some (side, key, .ok value)) :
    m.evicted = (m.before.group.store.add key value).2.map (·.key) := by
  simp [evicted, h]

theorem loaded?_eq_some (h : m.loaded? = some key) :
    ∃ side value, m.before.call? m.event = some (side, key, .ok value) := by
  unfold loaded? at h
  split at h
  · rename_i side k value hcall
    obtain rfl := Option.some.inj h
    exact ⟨side, value, hcall⟩
  · cases h

theorem loaded?_eq_none
    (h : ∀ side key value, m.before.call? m.event ≠ some (side, key, .ok value)) :
    m.loaded? = none := by
  unfold loaded?
  split
  · rename_i side key value hcall
    exact absurd hcall (h side key value)
  · rfl

theorem evicted_eq_nil
    (h : ∀ side key value, m.before.call? m.event ≠ some (side, key, .ok value)) :
    m.evicted = [] := by
  unfold evicted
  split
  · rename_i side key value hcall
    exact absurd hcall (h side key value)
  · rfl

end Moment

namespace Traffic

variable {t t' : Traffic} {c f bytes : Nat} {key name : String} {limit : Option Nat} {load : Load}
  {e : Event} {side : Side} {ms : List (Moment Traffic Event)} {m : Moment Traffic Event}

/-! ## While a source is asked -/

/-- Nobody but the leader of a load has a source answer for its key. -/
theorem caller?_of_call? {outcome : Outcome} {d : Nat} (sound : t.Sound)
    (hd : t.gate.Leads d key f) (h : t.call? e = some (side, key, outcome)) :
    e.caller? = some d := by
  obtain ⟨c, f', load, since, rfl, hc, -⟩ := call?_eq_some_iff.mp h
  obtain ⟨rfl, -⟩ := sound.gate.leader_unique ⟨_, hc, rfl⟩ hd
  rfl

/-- **While a source is asked for a key, the store has nothing for it.** -/
theorem absent_of_asked (run : Run after? (ofGroup (.create name bytes limit)) ms t)
    (h : t.gate.standing? c = some (key, .leading f load)) (ha : load.asked?.isSome) :
    t.group.store.find? key = none := by
  induction run generalizing f load with
  | nil => simp [ofGroup] at h
  | @snoc ms t t' e run he ih =>
    have step := step_of_after? he
    have sound := sound_of_run run
    -- The store had nothing for the key, and what a source may have answered is for another key.
    have before : t.group.store.find? key = none ∧
        ∀ side value, t.call? e ≠ some (side, key, .ok value) := by
      rcases step.standing sound h with ⟨h', hne⟩ | ⟨h', -⟩ | ⟨p, hp, turn⟩
      · refine ⟨ih h' ha, fun side value hcall => hne ?_⟩
        exact caller?_of_call? sound ⟨_, h', rfl⟩ hcall
      · cases h'
      · cases turn with
        | lead hr => cases ha
        | ask hv => exact ⟨hv, fun _ _ => (Option.some_ne_none _).symm⟩
        | hold => exact ⟨ih hp rfl, fun _ _ => (Option.some_ne_none _).symm⟩
        | fallBack ha' =>
          refine ⟨ih hp (by rw [ha']; rfl), fun side value hcall => ?_⟩
          rw [call?_of_leading hp ha'] at hcall
          cases hcall
    obtain ⟨hnone, hother⟩ := before
    rcases sound.find?_cases step with ⟨side, k, value, hcall, hstore⟩ | ⟨-, hsame⟩
    · rw [hstore, sound.store.find?_add]
      split
      · rfl
      · split
        · rename_i hk
          subst hk
          exact absurd hcall (hother side value)
        · exact hnone
    · rw [hsame, hnone]

/-- Before a load succeeds the store has nothing for its key. -/
theorem absent_of_loaded (run : Run after? (ofGroup (.create name bytes limit)) ms m.before)
    (h : m.loaded? = some key) : m.before.group.store.find? key = none := by
  obtain ⟨side, value, hcall⟩ := Moment.loaded?_eq_some h
  obtain ⟨c, f, load, since, -, hc, ha⟩ := call?_eq_some_iff.mp hcall
  exact absent_of_asked run hc (by rw [ha]; rfl)

/-- Whoever asks a source leads the load of the key, and nobody else does. -/
theorem leader_of_asked (run : Run after? (ofGroup (.create name bytes limit)) ms t)
    (h : .asked side key ∈ t.shown e) :
    t.group.store.find? key = none ∧ ∃ c, e.caller? = some c ∧ (∃ f, t.gate.Leads c key f) ∧
      ∀ d f, t.gate.Leads d key f → d = c := by
  have sound := sound_of_run run
  -- One caller at most leads the load of a key.
  have only : ∀ {c f}, t.gate.Leads c key f → ∀ d f', t.gate.Leads d key f' → d = c :=
    fun hc d f' hd => (sound.gate.leader_unique hd hc).1
  rcases asked_of_shown h with ⟨c, f, owner, rfl, -, hc, hv⟩ |
    ⟨c, f, load, peer, since, text, rfl, -, hc, ha⟩
  · exact ⟨hv, c, rfl, ⟨f, _, hc, rfl⟩, only ⟨_, hc, rfl⟩⟩
  · have hnone := absent_of_asked run hc (by rw [ha]; rfl)
    exact ⟨hnone, c, rfl, ⟨f, _, hc, rfl⟩, only ⟨_, hc, rfl⟩⟩

/-! ## Loads and evictions -/

/-- How often a load of a key succeeded. -/
def loads (ms : List (Moment Traffic Event)) (key : String) : Nat :=
  ms.countP (·.loaded? == some key)

/-- How often a key was evicted. -/
def evictions (ms : List (Moment Traffic Event)) (key : String) : Nat :=
  (ms.flatMap (·.evicted)).count key

theorem loads_snoc : loads (ms ++ [m]) key =
    loads ms key + if m.loaded? = some key then 1 else 0 := by
  simp [loads, List.countP_append, List.countP_cons]

theorem evictions_append {ms' : List (Moment Traffic Event)} :
    evictions (ms ++ ms') key = evictions ms key + evictions ms' key := by
  simp [evictions, List.flatMap_append]

theorem evictions_singleton : evictions [m] key = m.evicted.count key := by simp [evictions]

theorem evictions_pos (h : 0 < evictions ms key) : ∃ x ∈ ms, key ∈ x.evicted :=
  List.mem_flatMap.mp (List.count_pos_iff.mp h)

/-- **The loads of a key balance its evictions**, but for the value the store still holds. -/
theorem loads_eq (run : Run after? (ofGroup (.create name bytes limit)) ms t) (key : String) :
    loads ms key =
      evictions ms key + if (t.group.store.find? key).isSome then 1 else 0 := by
  induction run with
  | nil =>
    have hnone : (ofGroup (.create name bytes limit)).group.store.find? key = none :=
      Store.Sound.find?_empty bytes
    rw [hnone]
    rfl
  | @snoc ms t t' e run he ih =>
    have step := step_of_after? he
    have sound := sound_of_run run
    rw [loads_snoc, evictions_append, evictions_singleton, ih]
    rcases sound.find?_cases step with ⟨side, k, value, hcall, hstore⟩ | ⟨hno, hsame⟩
    · have hloaded : (⟨t, e, t'⟩ : Moment Traffic Event).loaded? = some k :=
        Moment.loaded?_of_call? hcall
      have hevicted : (⟨t, e, t'⟩ : Moment Traffic Event).evicted = _ :=
        Moment.evicted_of_call? hcall
      have habsent : t.group.store.find? k = none := absent_of_loaded (m := ⟨t, e, t'⟩) run hloaded
      rw [hloaded, hevicted, hstore, sound.store.find?_add]
      by_cases hout : key ∈ (t.group.store.add k value).2.map (·.key)
      · -- What is evicted was there before, unless it is the new entry itself.
        rw [if_pos hout, sound.store.evicted_nodup.count, if_pos hout]
        by_cases hk : key = k
        · subst hk
          simp [habsent]
        · have hwas := (sound.store.evicted_cases hout).resolve_left hk
          simp [hwas, Ne.symm hk]
      · rw [if_neg hout, List.count_eq_zero.mpr hout]
        by_cases hk : key = k
        · subst hk
          simp [habsent]
        · simp [hk, Ne.symm hk]
    · have hloaded := Moment.loaded?_eq_none (m := ⟨t, e, t'⟩) hno
      have hevicted := Moment.evicted_eq_nil (m := ⟨t, e, t'⟩) hno
      rw [hloaded, hevicted, hsame]
      simp

/-- **Between two loads of a key that succeed the key is evicted.** -/
theorem evicted_between {pre mid post : List (Moment Traffic Event)} {m' : Moment Traffic Event}
    (run : Run after? (ofGroup (.create name bytes limit)) (pre ++ m :: (mid ++ m' :: post)) t)
    (hm : m.loaded? = some key) (hm' : m'.loaded? = some key) :
    ∃ x ∈ m :: mid, key ∈ x.evicted := by
  have run₁ := run.at_moment.1
  have hsplit : pre ++ m :: (mid ++ m' :: post) = (pre ++ m :: mid) ++ m' :: post := by simp
  rw [hsplit] at run
  have run₂ := run.at_moment.1
  -- Both times the store had nothing for the key, so all earlier loads had been evicted.
  have h₁ := loads_eq run₁ key
  rw [absent_of_loaded run₁ hm] at h₁
  have h₂ := loads_eq run₂ key
  rw [absent_of_loaded run₂ hm', evictions_append] at h₂
  have hmore : loads pre key < loads (pre ++ m :: mid) key := by
    simp only [loads, List.countP_append, List.countP_cons, hm, beq_self_eq_true, if_true]
    omega
  apply evictions_pos
  simp only [Option.isSome_none, Bool.false_eq_true, if_false] at h₁ h₂
  omega

/-- A key that is never evicted is loaded once at most. -/
theorem loads_le_one (run : Run after? (ofGroup (.create name bytes limit)) ms t)
    (h : ∀ x ∈ ms, key ∉ x.evicted) : loads ms key ≤ 1 := by
  have hzero : evictions ms key = 0 := by
    by_contra hne
    obtain ⟨x, hx, hk⟩ := evictions_pos (Nat.pos_of_ne_zero hne)
    exact h x hx hk
  rw [loads_eq run key, hzero]
  split <;> omega

/-- **No redundant load.** In every order of steps, a source is asked for a key only by the one
leader of its load, and only when the store has nothing for the key. So the key is evicted between
any two loads of it that succeed, it is loaded once at most if it is never evicted, and in any case
its loads are its evictions and the value still held. -/
theorem no_redundant_load (run : Run after? (ofGroup (.create name bytes limit)) ms t) :
    (∀ e side key, .asked side key ∈ t.shown e →
      t.group.store.find? key = none ∧ ∃ c, e.caller? = some c ∧ (∃ f, t.gate.Leads c key f) ∧
        ∀ d f, t.gate.Leads d key f → d = c) ∧
      (∀ key pre m mid m' post, ms = pre ++ m :: (mid ++ m' :: post) →
        m.loaded? = some key → m'.loaded? = some key → ∃ x ∈ m :: mid, key ∈ x.evicted) ∧
      (∀ key, (∀ x ∈ ms, key ∉ x.evicted) → loads ms key ≤ 1) ∧
      ∀ key, loads ms key =
        evictions ms key + if (t.group.store.find? key).isSome then 1 else 0 := by
  refine ⟨?_, ?_, ?_, loads_eq run⟩
  · intro e side key h
    exact leader_of_asked run h
  · rintro key pre m mid m' post rfl hm hm'
    exact evicted_between run hm hm'
  · intro key h
    exact loads_le_one run h

/-- Nothing fits into the store, so what was loaded is evicted at once, and loaded again. -/
def refetch : List Event :=
  [.look "k", .join 0, .lookAgain 0 none, .receive 0 (.ok ⟨[1]⟩), .publish 0, .retire 0,
    .look "k", .join 1, .lookAgain 1 none, .receive 1 (.ok ⟨[2]⟩)]

theorem no_redundant_load_refetch :
    loads (trail after? (ofGroup (.create "g" 0 none)) refetch).1 "k" = 2 ∧
      ∃ x ∈ (trail after? (ofGroup (.create "g" 0 none)) refetch).1, "k" ∈ x.evicted := by
  have htwo : loads (trail after? (ofGroup (.create "g" 0 none)) refetch).1 "k" = 2 := by
    cbv
  refine ⟨htwo, ?_⟩
  have once := (no_redundant_load
    (run_trail after? (ofGroup (.create "g" 0 none)) refetch)).2.2.1 "k"
  by_contra hno
  push Not at hno
  have hle := once hno
  omega

end Traffic

end ReadThrough
