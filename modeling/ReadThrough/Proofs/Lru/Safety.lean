import ReadThrough.Proofs.Lru.Checked
import ReadThrough.Proofs.Lru.Refinement
import ReadThrough.Proofs.Lru.WellFormed

/-!
# Operations that cannot go wrong

Whatever is done to a cache, its slots stay well formed, and there are no more of them than there
were entries at the fullest moment. So a machine that checks every step never stops: every slot it
reads or writes is there, no difference of bytes is negative, and where the budget is exceeded an
entry is left to be evicted. All that is asked for is that the bytes held at once are a word.

## Main definitions

* `Lru.crowd`, `Lru.held`: the entries there are, and the bytes held, at the fullest moment of an
  operation
* `Lru.Checked.run`: operations on a machine that stops at the first thing that goes wrong

## Main results

* `Lru.Layout.slots_size_step`: an operation makes a slot only if there is no room for its entry
* `Lru.Shows.checked_step`, `Lru.Shows.checked_run`: nothing stops an operation, or many of them
* `Lru.slots_sound`: at any time the slots are well formed and as many as were needed at once
-/

namespace ReadThrough

/-! ## The fullest moment of an operation -/

namespace Lru

/-- The entries there are at the fullest moment of an operation: after a new one was linked in, and
before any is evicted. -/
def crowd (c : Lru) : Op → Nat
  | .get _ => c.size
  | .add key value => (c.put key value).size
  | .addCollect key value => (c.put key value).size

/-- The bytes held at the fullest moment of an operation: those of all entries, with those of a
value that is replaced, and those that come in. -/
def held (c : Lru) : Op → Nat
  | .get _ => c.used
  | .add key value => c.used + c.incoming key value
  | .addCollect key value => c.used + c.incoming key value

end Lru

namespace Recency

open Lru (Op)

/-- The bytes that an insertion brings in. -/
def incoming (es : List Entry) (key : String) (value : Value) : Nat :=
  match lookup es key with
  | some _ => value.size
  | none => key.utf8ByteSize + value.size

/-- The entries there are at the fullest moment of an operation on a list. -/
def crowd (es : List Entry) : Op → Nat
  | .get _ => es.length
  | .add key value => (put es key value).length
  | .addCollect key value => (put es key value).length

/-- The bytes held at the fullest moment of an operation on a list. -/
def held (es : List Entry) : Op → Nat
  | .get _ => weight es
  | .add key value => weight es + incoming es key value
  | .addCollect key value => weight es + incoming es key value

end Recency

namespace Lru

variable {c : Lru} {e : Entry} {key : String} {value : Value} {chain : List (Nat × Entry)}

namespace Shows

variable {es : List Entry}

theorem crowd_eq (h : Shows c es) (op : Op) : c.crowd op = Recency.crowd es op := by
  cases op with
  | get key => exact h.size_eq
  | add key value => exact (h.put key value).1.size_eq
  | addCollect key value => exact (h.put key value).1.size_eq

theorem incoming_eq (h : Shows c es) (key : String) (value : Value) :
    c.incoming key value = Recency.incoming es key value := by
  obtain ⟨chain, h, rfl⟩ := h
  have hnone : c.index[key]? = none ↔ Recency.lookup (chain.map Prod.snd) key = none :=
    h.index_eq_none_iff.trans Recency.lookup_eq_none_iff.symm
  unfold incoming Recency.incoming
  cases hi : c.index[key]? with
  | none => rw [hnone.mp hi]
  | some i =>
    cases hl : Recency.lookup (chain.map Prod.snd) key with
    | none => cases hi.symm.trans (hnone.mpr hl)
    | some v => rfl

theorem held_eq (h : Shows c es) (op : Op) : c.held op = Recency.held es op := by
  cases op with
  | get key => exact h.used_eq
  | add key value => exact congrArg₂ (· + ·) h.used_eq (h.incoming_eq key value)
  | addCollect key value => exact congrArg₂ (· + ·) h.used_eq (h.incoming_eq key value)

end Shows

/-- What is at the fullest moment of operations can be told from the list in order of use: how many
entries there are, -/
theorem peak_crowd_eq (budget : Nat) (notifies : Bool) (ops : List Op) :
    peak (Lru.step notifies) crowd (Lru.empty budget) ops =
      peak (Recency.step budget notifies) Recency.crowd [] ops :=
  peak_eq_of_related (R := Fits budget)
    (fun h op => ⟨h.1.crowd_eq op, (h.step notifies op).2⟩) (Fits.empty budget) ops

/-- and how many bytes they are. -/
theorem peak_held_eq (budget : Nat) (notifies : Bool) (ops : List Op) :
    peak (Lru.step notifies) held (Lru.empty budget) ops =
      peak (Recency.step budget notifies) Recency.held [] ops :=
  peak_eq_of_related (R := Fits budget)
    (fun h op => ⟨h.1.held_eq op, (h.step notifies op).2⟩) (Fits.empty budget) ops

/-! ## As many slots as entries at once -/

theorem slots_size_get (key : String) : (c.get key).1.slots.size = c.slots.size := by
  unfold Lru.get
  split
  · exact alike_touch.size
  · rfl

theorem slots_size_evict? {c' : Lru} (h : c.evict? = some (c', e)) :
    c'.slots.size = c.slots.size := by
  obtain ⟨i, -, h⟩ := Option.bind_eq_some_iff.mp h
  obtain ⟨s, -, h⟩ := Option.map_eq_some_iff.mp h
  rw [← (Prod.mk.inj h).1]
  exact (Array.size_modify ..).trans alike_unlink.size

theorem slots_size_shrink (n : Nat) : (c.shrink n).1.slots.size = c.slots.size := by
  induction n generalizing c with
  | zero => rfl
  | succ n ih =>
    rw [Lru.shrink]
    split
    · rfl
    · cases he : c.evict? with
      | none => rfl
      | some p => exact ih.trans (slots_size_evict? he)

theorem slots_size_place (e : Entry) :
    (c.place e).1.slots.size = if c.free = [] then c.slots.size + 1 else c.slots.size := by
  unfold Lru.place
  split
  · rename_i hf
    simp [hf]
  · rename_i hf
    simp [hf]

namespace Layout

/-- **A slot is made only if there is no room for a new entry.** -/
theorem slots_size_put (h : Layout c chain) (key : String) (value : Value) :
    (c.put key value).slots.size = max c.slots.size (c.put key value).size := by
  have hsize : c.size = chain.length := h.size_eq
  have hslots := h.wellFormed.slots_size
  cases hi : c.index[key]? with
  | some i =>
    -- The entry keeps its slot.
    have hput : (c.put key value).slots.size = c.slots.size ∧ (c.put key value).size = c.size := by
      simp only [put, hi, Lru.size, alike_touch.size, alike_touch.index, Array.size_modify,
        true_and]
    rw [hput.1, hput.2]
    omega
  | none =>
    obtain ⟨j, hput, -⟩ := h.insert hi value
    have hgrown : (c.put key value).size = c.size + 1 := hput.size_eq.trans (by simp [hsize])
    have hplaced : (c.put key value).slots.size =
        if c.free = [] then c.slots.size + 1 else c.slots.size := by
      simp only [put, hi]
      exact alike_pushNewest.size.trans (slots_size_place _)
    rw [hgrown, hplaced]
    split
    · -- All slots are in use, so the new one is the first beyond them.
      rename_i hfree
      rw [hfree, List.length_nil] at hslots
      omega
    · -- One slot is vacant at least, so there were more slots than entries.
      rename_i hfree
      have hroom := List.length_pos_of_ne_nil hfree
      omega

/-- **An operation makes a slot only if there is no room for its entry.** -/
theorem slots_size_step (h : Layout c chain) (notifies : Bool) (op : Op) :
    (c.step notifies op).1.slots.size = max c.slots.size (c.crowd op) := by
  have hadd : ∀ key value,
      (c.add key value).1.slots.size = max c.slots.size (c.put key value).size := fun key value =>
    (slots_size_shrink _).trans (h.slots_size_put key value)
  cases op with
  | get key =>
    have hle : c.size ≤ c.slots.size := h.size_eq.trans_le h.length_le
    exact (slots_size_get key).trans (Nat.max_eq_left hle).symm
  | add key value => exact hadd key value
  | addCollect key value => exact hadd key value

end Layout

/-! ## Nothing stops the machine -/

namespace Checked

/-- What can be seen of a cache after an operation with the given result. -/
def sight (c : Lru) (reply : Reply) : Except Trap Sight := do
  return ⟨reply, c.size, c.isEmpty, c.used, ← oldestKey? c⟩

/-- An insertion that results in `reply` of the evicted entries. -/
def insert (c : Lru) (key : String) (value : Value) (reply : List Entry → Reply) :
    Except Trap (Lru × Sight) := do
  let (c, evicted) ← add c key value
  return (c, ← sight c (reply evicted))

/-- An operation on a cache. -/
def step (notifies : Bool) (c : Lru) : Op → Except Trap (Lru × Sight)
  | .get key => do
    let (c, value) ← get c key
    return (c, ← sight c (.found value))
  | .add key value => insert c key value fun evicted => .reported (reports notifies evicted)
  | .addCollect key value => insert c key value .collected

/-- Operations on a cache, one after the other: where they end, and what can be seen of them. -/
def run (notifies : Bool) : Lru → List Op → Except Trap (Lru × List Sight)
  | c, [] => .ok (c, [])
  | c, op :: ops => do
    let (c, s) ← step notifies c op
    let (c, ss) ← run notifies c ops
    return (c, s :: ss)

end Checked

namespace Shows

variable {es : List Entry}

theorem checked_sight (h : Shows c es) (reply : Reply) :
    Checked.sight c reply = .ok (c.sight reply) := by
  obtain ⟨chain, h, -⟩ := h
  rw [Checked.sight, h.checked_oldestKey?]
  rfl

theorem checked_insert (h : Shows c es) (hw : c.used + c.incoming key value < words)
    (reply : List Entry → Reply) : Checked.insert c key value reply =
      .ok ((c.add key value).1, (c.add key value).1.sight (reply (c.add key value).2)) := by
  obtain ⟨chain, hl, -⟩ := id h
  have hafter := (h.add key value).1
  rw [Checked.insert, hl.checked_add hw, ok_bind]
  simp only [hafter.checked_sight]
  rfl

/-- **Nothing stops an operation**, as long as all bytes held during it are a word. -/
theorem checked_step (h : Shows c es) (notifies : Bool) {op : Op} (hw : c.held op < words) :
    Checked.step notifies c op = .ok (c.step notifies op) := by
  cases op with
  | get key =>
    obtain ⟨chain, hl, -⟩ := id h
    have hafter := (h.get key).2.1
    rw [Checked.step, hl.checked_get key, ok_bind]
    simp only [hafter.checked_sight]
    rfl
  | add key value => exact h.checked_insert hw fun evicted => .reported (reports notifies evicted)
  | addCollect key value => exact h.checked_insert hw _

/-- **Nothing stops a sequence of operations**, as long as all bytes held at once are a word. -/
theorem checked_run (h : Shows c es) (notifies : Bool) {ops : List Op}
    (hw : peak (Lru.step notifies) held c ops < words) :
    Checked.run notifies c ops =
      .ok (stateAfter (Lru.step notifies) c ops, transcript (Lru.step notifies) c ops) := by
  -- The invariant is that the slots show some list of entries; the peak bounds every operation.
  induction ops generalizing c es with
  | nil => rfl
  | cons op ops ih =>
    obtain ⟨hop, hops⟩ := max_lt_iff.mp hw
    have hafter := (h.step notifies op).2.1
    rw [Checked.run, h.checked_step notifies hop, ok_bind]
    simp only [ih hafter hops]
    rfl

end Shows

/-! ## Any operations, one after the other -/

/-- **The slots of a cache are well formed at any time.** Whatever is done to an empty cache, the
slots in use form one row from the newest to the oldest, linked both ways; the index knows their
keys; all other slots are vacant; and there are as many slots as there were entries at the fullest
moment. So nothing goes wrong as long as the bytes held at once are a word: every slot that is read
or written is there, no sum of bytes is too large and no difference negative, and an entry is left
wherever one has to be evicted. -/
theorem slots_sound (budget : Nat) (notifies : Bool) (ops : List Op) :
    WellFormed (stateAfter (Lru.step notifies) (Lru.empty budget) ops) ∧
      (stateAfter (Lru.step notifies) (Lru.empty budget) ops).slots.size =
        peak (Lru.step notifies) crowd (Lru.empty budget) ops ∧
      (peak (Lru.step notifies) held (Lru.empty budget) ops < words →
        Checked.run notifies (Lru.empty budget) ops =
          .ok (stateAfter (Lru.step notifies) (Lru.empty budget) ops,
            transcript (Lru.step notifies) (Lru.empty budget) ops)) := by
  have start : Shows (Lru.empty budget) [] := .empty budget
  obtain ⟨-, ⟨chain, hlayout, -⟩, -⟩ := transcript_eq_of_related (R := Fits budget)
    (fun h op => h.step notifies op) (Fits.empty budget) ops
  refine ⟨hlayout.wellFormed, ?_, start.checked_run notifies⟩
  calc (stateAfter (Lru.step notifies) (Lru.empty budget) ops).slots.size
    _ = max (Lru.empty budget).slots.size
          (peak (Lru.step notifies) crowd (Lru.empty budget) ops) :=
        measure_stateAfter (f := fun c => c.slots.size) (J := fun c => ∃ es, Shows c es)
          (fun ⟨_, _, h, _⟩ op => h.slots_size_step notifies op)
          (fun ⟨_, h⟩ op => ⟨_, (h.step notifies op).2.1⟩) ⟨_, start⟩ ops
    _ = peak (Lru.step notifies) crowd (Lru.empty budget) ops := Nat.zero_max _

/-- Four keys, one after the other, where two entries of three bytes fit. -/
def turnover : List Op :=
  [.add "k0" (.ofText "v"), .add "k1" (.ofText "v"), .get "k0", .addCollect "k2" (.ofText "w"),
    .add "k0" (.ofText "u"), .add "k3" (.ofText "xyz")]

/-- Slots are used again, so three are enough for four keys; and nothing stops the machine. -/
theorem slots_sound_turnover :
    WellFormed (stateAfter (Lru.step true) (Lru.empty 6) turnover) ∧
      (stateAfter (Lru.step true) (Lru.empty 6) turnover).slots.size = 3 ∧
      peak (Lru.step true) held (Lru.empty 6) turnover < words ∧
      Checked.run true (Lru.empty 6) turnover =
        .ok (stateAfter (Lru.step true) (Lru.empty 6) turnover,
          transcript (Lru.step true) (Lru.empty 6) turnover) := by
  obtain ⟨hwell, hsize, hrun⟩ := slots_sound 6 true turnover
  have hheld : peak (Lru.step true) held (Lru.empty 6) turnover = 11 := by
    rw [peak_held_eq]
    decide
  have hlt : peak (Lru.step true) held (Lru.empty 6) turnover < words := by
    rw [hheld]
    decide
  refine ⟨hwell, ?_, hlt, hrun hlt⟩
  rw [hsize, peak_crowd_eq]
  decide

end Lru

end ReadThrough
