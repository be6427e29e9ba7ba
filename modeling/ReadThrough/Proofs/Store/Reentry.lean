import ReadThrough.Proofs.Store.Hook

/-!
# Hooks that put back less than was evicted

A hook may put an evicted entry back with a shorter value, as often as it is evicted. What it puts
back may evict other entries, which are reported and put back in turn before the first insertion is
over. All insertions come to an end nevertheless. Every byte of a value, and every entry besides,
is worth one call of the hook. To report an entry takes its worth away, and what is put back is
worth less than what was reported; so the calls and what the store is worth, together, never come
to more than what it was worth before and what was inserted.

## Main definitions

* `Recency.worth es`, `Store.worth s`: the calls that entries are good for
* `Reaction.Looks`, `Reaction.Shrinks e`: reactions that only look up, or put `e` back at most once,
  with a shorter value
* `Session.Returned s allowance rest t`: nothing but `rest` is due any more, and the hook was called
  as often as is allowed
* `Reaction.Within k r`: a reaction of `k` tasks at most
* `Hook.Short hook`: a hook that does no more about an entry than the number of tasks allows for

## Main results

* `Session.ends`: reports come to an end, with all that follows from them
* `Session.add_returns`: so does every insertion, whoever makes it
* `Store.Sound.agenda_addReporting`: the tasks that are done after an insertion are enough for short
  hooks
* `Session.addReporting_returns`: so insertions return with each of the hooks there are
-/

namespace ReadThrough

/-! ## What entries are worth -/

/-- The calls of the hook that entries are good for: one for each, and one for each byte of a
value. -/
def Recency.worth (es : List Entry) : Nat := (es.map fun e => e.value.size + 1).sum

namespace Recency

variable {es es' : List Entry} {e : Entry} {key : String} {value : Value}

@[simp] theorem worth_nil : worth [] = 0 := rfl

@[simp] theorem worth_cons : worth (e :: es) = e.value.size + 1 + worth es := by
  simp [worth]

@[simp] theorem worth_append : worth (es ++ es') = worth es + worth es' := by
  simp [worth]

theorem worth_perm (h : es.Perm es') : worth es = worth es' := (h.map _).sum_nat

theorem worth_without_le (es : List Entry) (key : String) : worth (without es key) ≤ worth es := by
  induction es with
  | nil => exact Nat.le_refl _
  | cons e es ih =>
    rw [without, List.filter_cons]
    split
    · rw [worth_cons, worth_cons]
      exact Nat.add_le_add_left ih _
    · rw [worth_cons]
      exact Nat.le_trans ih (Nat.le_add_left _ _)

/-- What is there after an insertion and what it evicts are worth no more than what was there and
what was inserted. -/
theorem worth_add_le (budget : Nat) (es : List Entry) (key : String) (value : Value) :
    worth (add budget es key value).1 + worth (add budget es key value).2 ≤
      worth es + (value.size + 1) := by
  have hput : worth (put es key value) ≤ worth es + (value.size + 1) := by
    rw [put, worth_cons, Nat.add_comm]
    exact Nat.add_le_add_right (worth_without_le es key) _
  rwa [← add_append budget, worth_append, worth_perm (List.reverse_perm _)] at hput

end Recency

namespace Store

variable {s : Store}

/-- The calls of the hook that the entries of a store are good for. -/
def worth (s : Store) : Nat := Recency.worth s.lru.entries

theorem Sound.worth_get (h : s.Sound) (key : String) : (s.get key).1.worth = s.worth := by
  obtain ⟨es, h⟩ := h
  have hget : (s.get key).1.lru.Shows (Recency.touch es key) := (h.get key).2.1
  rw [Store.worth, Store.worth, hget.entries_eq, h.entries_eq]
  exact Recency.worth_perm (Recency.touch_perm h.keys_nodup key)

/-- An insertion brings in no more than what is inserted is worth. -/
theorem Sound.worth_add_le (h : s.Sound) (key : String) (value : Value) :
    (s.add key value).1.worth + Recency.worth (s.add key value).2 ≤
      s.worth + (value.size + 1) := by
  obtain ⟨es, h⟩ := h
  obtain ⟨hadd, hout, -⟩ := h.add key value
  have hs : (s.add key value).1.lru.Shows (Recency.add s.lru.budget es key value).1 := hadd
  have ho : (s.add key value).2 = (Recency.add s.lru.budget es key value).2 := hout
  rw [Store.worth, Store.worth, hs.entries_eq, h.entries_eq, ho]
  exact Recency.worth_add_le s.lru.budget es key value

end Store

/-! ## Reactions -/

namespace Reaction

/-- The reaction only looks up. -/
inductive Looks : Reaction → Prop where
  /-- It is over. -/
  | done : Looks .done
  /-- It looks a key up, and whatever it finds, it only looks up afterwards. -/
  | get {key : String} {next : Option Value → Reaction} :
      (∀ found, Looks (next found)) → Looks (.get key next)

/-- The reaction looks up, and at most once puts back the key of an evicted entry, with a shorter
value; so it puts nothing back for an empty one. -/
inductive Shrinks (e : Entry) : Reaction → Prop where
  /-- It is over. -/
  | done : Shrinks e .done
  /-- It looks a key up, and goes on whatever it finds. -/
  | get {key : String} {next : Option Value → Reaction} :
      (∀ found, Shrinks e (next found)) → Shrinks e (.get key next)
  /-- It puts the key back and stores nothing more. -/
  | add {value : Value} {next : Reaction} :
      value.size < e.value.size → Looks next → Shrinks e (.add e.key value next)

end Reaction

theorem Hook.halve_shrinks (n : Nat) (e : Entry) : (Hook.halve n e).Shrinks e := by
  rw [halve]
  split
  · exact .done
  · rename_i hne
    have hpos : 0 < e.value.size := List.length_pos_iff.mpr (by simpa [Value.isEmpty] using hne)
    refine .add ?_ .done
    show (e.value.bytes.take (e.value.size / 2)).length < e.value.size
    rw [List.length_take]
    omega

/-! ## Working off what is due -/

namespace Session

variable {hook : Hook} {s t u : Session} {rest rest' : List Task} {r : Reaction} {e : Entry}
  {a b n N budget : Nat} {ms : List (Moment Session Event)}

theorem run_of_agenda (h : s.agenda = []) (n : Nat) : run hook n s = s := by
  cases n with
  | zero => rfl
  | succ n => rw [run, if_pos (List.isEmpty_iff.mpr h)]

theorem run_succ (hook : Hook) (n : Nat) (s : Session) :
    run hook (n + 1) s = run hook n (s.step hook) := by
  by_cases h : s.agenda = []
  · have hstep : s.step hook = s := by simp only [step, h]
    rw [hstep, run_of_agenda h, run_of_agenda h]
  · rw [run, if_neg (by simpa using h)]

theorem run_add (hook : Hook) (m n : Nat) (s : Session) :
    run hook (m + n) s = run hook n (run hook m s) := by
  induction m generalizing s with
  | zero => rw [Nat.zero_add, run]
  | succ m ih => rw [Nat.succ_add_eq_add_succ, Nat.add_succ, run_succ, run_succ, ih]

/-- Work has come from `s` to `t`, where nothing but `rest` is due any more. The calls of the hook
on the way and what the store is worth then are no more than what it was worth, and an allowance. -/
structure Returned (s : Session) (allowance : Nat) (rest : List Task) (t : Session) : Prop where
  /-- What came before the rest is done. -/
  agenda : t.agenda = rest
  /-- The store is in order. -/
  sound : t.store.Sound
  /-- The hook was called as often as is allowed. -/
  calls : ∃ calls, t.reported = calls ++ s.reported ∧
    t.store.worth + calls.length ≤ s.store.worth + allowance

/-- Work comes to an end of what is due before the rest. -/
def Settles (hook : Hook) (s : Session) (allowance : Nat) (rest : List Task) : Prop :=
  ∃ n, Returned s allowance rest (run hook n s)

theorem Returned.trans (h : Returned s a rest t) (h' : Returned t b rest' u) :
    Returned s (a + b) rest' u := by
  obtain ⟨calls, hcalls, hle⟩ := h.calls
  obtain ⟨calls', hcalls', hle'⟩ := h'.calls
  refine ⟨h'.agenda, h'.sound, calls' ++ calls, ?_, ?_⟩
  · rw [hcalls', hcalls, List.append_assoc]
  · rw [List.length_append]
    omega

theorem Returned.mono (h : Returned s a rest t) (hab : a ≤ b) : Returned s b rest t := by
  obtain ⟨calls, hcalls, hle⟩ := h.calls
  exact ⟨h.agenda, h.sound, calls, hcalls, Nat.le_trans hle (Nat.add_le_add_left hab _)⟩

theorem Returned.worth_le (h : Returned s a rest t) : t.store.worth ≤ s.store.worth + a := by
  obtain ⟨calls, -, hle⟩ := h.calls
  omega

theorem Settles.of_agenda (h : s.agenda = rest) (sound : s.store.Sound) : Settles hook s 0 rest :=
  ⟨0, h, sound, [], rfl, Nat.le_refl _⟩

/-- What is due first, and then what is due after it. -/
theorem Settles.trans (h : Settles hook s a rest)
    (h' : ∀ t, Returned s a rest t → Settles hook t b rest') : Settles hook s (a + b) rest' := by
  obtain ⟨m, hm⟩ := h
  obtain ⟨n, hn⟩ := h' _ hm
  refine ⟨m + n, ?_⟩
  rw [run_add]
  exact hm.trans hn

/-- One task, and then what is due after it. -/
theorem Settles.of_step (h : Returned s a rest (s.step hook))
    (h' : Settles hook (s.step hook) b rest') : Settles hook s (a + b) rest' := by
  obtain ⟨n, hn⟩ := h'
  refine ⟨n + 1, ?_⟩
  rw [run_succ]
  exact h.trans hn

theorem Settles.mono (h : Settles hook s a rest) (hab : a ≤ b) : Settles hook s b rest := by
  obtain ⟨n, hn⟩ := h
  exact ⟨n, hn.mono hab⟩

/-! ### Single tasks -/

theorem returned_report (hs : s.agenda = .report e :: rest) (sound : s.store.Sound) :
    Returned s 1 (.react (hook s.reported.length e) :: rest) (s.step hook) := by
  obtain ⟨store, agenda, reported⟩ := s
  cases hs
  exact ⟨rfl, sound, [e], rfl, Nat.le_refl _⟩

theorem returned_done (hs : s.agenda = .react .done :: rest) (sound : s.store.Sound) :
    Returned s 0 rest (s.step hook) := by
  obtain ⟨store, agenda, reported⟩ := s
  cases hs
  exact ⟨rfl, sound, [], rfl, Nat.le_refl _⟩

theorem returned_get {key : String} {next : Option Value → Reaction}
    (hs : s.agenda = .react (.get key next) :: rest) (sound : s.store.Sound) :
    Returned s 0 (.react (next (s.store.get key).2) :: rest) (s.step hook) := by
  obtain ⟨store, agenda, reported⟩ := s
  cases hs
  exact ⟨rfl, sound.get key, [], rfl, Nat.le_of_eq (Store.Sound.worth_get sound key)⟩

/-! ### Reactions and reports -/

/-- A reaction that only looks up comes to an end without a call. -/
theorem settles_looks (looks : r.Looks) (hs : s.agenda = .react r :: rest)
    (sound : s.store.Sound) : Settles hook s 0 rest := by
  induction looks generalizing s with
  | done =>
    have hstep : Returned s 0 rest (s.step hook) := returned_done hs sound
    exact .of_step hstep (.of_agenda hstep.agenda hstep.sound)
  | @get key next _ ih =>
    have hstep : Returned s 0 (.react (next (s.store.get key).2) :: rest) (s.step hook) :=
      returned_get hs sound
    exact .of_step hstep (ih _ hstep.agenda hstep.sound)

/-- Reports of entries come to an end if these and the ones in the store are worth `N` calls or
less. -/
def Ends (hook : Hook) (N : Nat) : Prop :=
  ∀ (s : Session) (es : List Entry) (rest : List Task), s.agenda = es.map .report ++ rest →
    s.store.Sound → s.store.worth + Recency.worth es ≤ N →
      Settles hook s (Recency.worth es) rest

/-- A session in which a value is stored; what this evicts is to be reported before the rest. -/
def insert (s : Session) (key : String) (value : Value) (rest : List Task) : Session :=
  ⟨(s.store.add key value).1, (s.store.add key value).2.map .report ++ rest, s.reported⟩

/-- An insertion comes to an end if the reports of what it evicts do. -/
theorem Ends.exists_returned (ends : Ends hook N) (sound : s.store.Sound) {value : Value}
    (hN : s.store.worth + (value.size + 1) ≤ N) (key : String) (rest : List Task) :
    ∃ n, Returned s (value.size + 1) rest (run hook n (s.insert key value rest)) := by
  have hworth := sound.worth_add_le key value
  obtain ⟨n, hn⟩ := ends (s.insert key value rest) (s.store.add key value).2 rest rfl
    (sound.add key value) (Nat.le_trans hworth hN)
  obtain ⟨calls, hcalls, hle⟩ := hn.calls
  exact ⟨n, hn.agenda, hn.sound, calls, hcalls, Nat.le_trans hle hworth⟩

theorem Ends.settles_add (ends : Ends hook N) {key : String} {value : Value} {next : Reaction}
    (hs : s.agenda = .react (.add key value next) :: rest) (sound : s.store.Sound)
    (hN : s.store.worth + (value.size + 1) ≤ N) :
    Settles hook s (value.size + 1) (.react next :: rest) := by
  have hstep : s.step hook = s.insert key value (.react next :: rest) := by
    simp only [step, hs, insert]
  obtain ⟨n, hn⟩ := ends.exists_returned sound hN key (.react next :: rest)
  refine ⟨n + 1, ?_⟩
  rwa [run_succ, hstep]

/-- A reaction to an entry comes to an end with fewer calls than the entry is worth. -/
theorem Ends.settles_shrinks (ends : Ends hook N) (shrinks : r.Shrinks e)
    (hs : s.agenda = .react r :: rest) (sound : s.store.Sound)
    (hN : s.store.worth + e.value.size ≤ N) : Settles hook s e.value.size rest := by
  induction shrinks generalizing s with
  | done =>
    have hstep : Returned s 0 rest (s.step hook) := returned_done hs sound
    exact (Settles.of_step hstep (.of_agenda hstep.agenda hstep.sound)).mono (Nat.zero_le _)
  | @get key next _ ih =>
    have hstep : Returned s 0 (.react (next (s.store.get key).2) :: rest) (s.step hook) :=
      returned_get hs sound
    have hworth := hstep.worth_le
    have hrest := ih _ hstep.agenda hstep.sound (by omega)
    exact (Settles.of_step hstep hrest).mono (by omega)
  | add hlt looks =>
    have hadd := ends.settles_add hs sound (by omega)
    exact (hadd.trans fun t ht => settles_looks looks ht.agenda ht.sound).mono hlt

/-- **Reports come to an end**, with all that follows from them: an entry takes one call, and what
is put back for it is worth less than the entry was. -/
theorem ends (shrinks : ∀ n e, (hook n e).Shrinks e) (N : Nat) : Ends hook N := by
  induction N with
  | zero =>
    intro s es rest hs sound hN
    cases es with
    | nil => exact .of_agenda hs sound
    | cons e es =>
      rw [Recency.worth_cons] at hN
      omega
  | succ N ih =>
    intro s es rest hs sound hN
    cases es with
    | nil => exact .of_agenda hs sound
    | cons e es =>
      have hreport : Returned s 1 (.react (hook s.reported.length e) :: (es.map .report ++ rest))
          (s.step hook) := returned_report hs sound
      have hstore : (s.step hook).store = s.store := by
        simp only [step, hs, List.map_cons, List.cons_append]
      rw [Recency.worth_cons] at hN ⊢
      -- What is put back for the entry is worth less than it was, and so are the entries behind it.
      have hreact : Settles hook (s.step hook) e.value.size (es.map .report ++ rest) :=
        ih.settles_shrinks (shrinks _ _) hreport.agenda hreport.sound (by rw [hstore]; omega)
      have htail : Settles hook (s.step hook) (e.value.size + Recency.worth es) rest := by
        refine hreact.trans fun t ht => ih t es rest ht.agenda ht.sound ?_
        have hworth := ht.worth_le
        rw [hstore] at hworth
        omega
      exact (Settles.of_step hreport htail).mono (by omega)

/-! ## Insertions -/

/-- **Every insertion comes to an end**, whoever makes it, with everything that follows from it:
those from outside, and those that the hook makes while reports of evicted entries are due. -/
theorem add_returns (shrinks : ∀ n e, (hook n e).Shrinks e)
    (run : Run (step? hook) (ofStore (.empty budget)) ms s) :
    (∀ key value t, step? hook s (.add key value) = some t →
      ∃ n, Returned s (value.size + 1) [] (Session.run hook n t)) ∧
    ∀ key value next rest, s.agenda = .react (.add key value next) :: rest →
      ∃ n, Returned s (value.size + 1) (.react next :: rest) (Session.run hook n s) := by
  have sound : s.store.Sound := (fits_of_run run).sound
  refine ⟨fun key value t ht => ?_, fun key value next rest hs => ?_⟩
  · obtain ⟨-, ht⟩ := Option.ite_none_right_eq_some.mp ht
    have hinsert : t = s.insert key value [] := by
      rw [insert, List.append_nil]
      exact (Option.some.inj ht).symm
    rw [hinsert]
    exact (ends shrinks _).exists_returned sound (Nat.le_refl _) key []
  · exact (ends shrinks _).settles_add hs sound (Nat.le_refl _)

/-- A hook is called with an entry of four bytes, and puts two of them back. -/
def halvingRun : List (Moment Session Event) × Session :=
  trail (step? Hook.halve) (ofStore (.empty 2)) [.add "a" ⟨[1, 2, 3, 4]⟩, .work]

theorem add_returns_halve :
    (halvingRun.2.agenda = [.react (.add "a" ⟨[1, 2]⟩ .done)] ∧
      halvingRun.2.reported = [⟨"a", ⟨[1, 2, 3, 4]⟩⟩]) ∧
      ∃ n, Returned halvingRun.2 3 [.react .done] (Session.run Hook.halve n halvingRun.2) := by
  have hagenda : halvingRun.2.agenda = [.react (.add "a" ⟨[1, 2]⟩ .done)] := by cbv
  have hreported : halvingRun.2.reported = [⟨"a", ⟨[1, 2, 3, 4]⟩⟩] := by cbv
  refine ⟨⟨hagenda, hreported⟩, ?_⟩
  exact (add_returns Hook.halve_shrinks (run_trail (step? Hook.halve) (ofStore (.empty 2))
    [.add "a" ⟨[1, 2, 3, 4]⟩, .work])).2 "a" ⟨[1, 2]⟩ .done [] hagenda

end Session

/-! ## How many tasks are enough -/

/-- A reaction of `k` tasks at most. -/
inductive Reaction.Within : Nat → Reaction → Prop where
  /-- To be over is a task as well. -/
  | done {k : Nat} : Within (k + 1) .done
  /-- A lookup comes before what is left. -/
  | get {k : Nat} {key : String} {next : Option Value → Reaction} :
      (∀ found, Within k (next found)) → Within (k + 1) (.get key next)
  /-- So does an insertion. -/
  | add {k : Nat} {key : String} {value : Value} {next : Reaction} :
      Within k next → Within (k + 1) (.add key value next)

/-- A hook that never does more than one lookup about an entry, or puts it back once, with a shorter
value. -/
structure Hook.Short (hook : Hook) : Prop where
  shrinks : ∀ n e, (hook n e).Shrinks e
  within : ∀ n e, (hook n e).Within 2

namespace Hook.Short

theorem quiet : Hook.quiet.Short where
  shrinks _ _ := .done
  within _ _ := .done

theorem lookUp : Hook.lookUp.Short where
  shrinks _ _ := .get fun _ => .done
  within _ _ := .get fun _ => .done

theorem halve : Hook.halve.Short where
  shrinks := halve_shrinks
  within n e := by
    rw [Hook.halve]
    split
    · exact .done
    · exact .add .done

/-- What was reported before makes no difference to how long a hook takes. -/
theorem shift {hook : Hook} (h : hook.Short) (k : Nat) : Short fun n => hook (n + k) :=
  ⟨fun n => h.shrinks (n + k), fun n => h.within (n + k)⟩

end Hook.Short

namespace Session

variable {hook : Hook} {s : Session} {rest : List Task} {k m n N : Nat}

/-- The reactions due take `m` tasks at most, without the reports. -/
inductive Owes : List Task → Nat → Prop where
  | nil : Owes [] 0
  | report {e : Entry} {rest : List Task} {m : Nat} : Owes rest m → Owes (.report e :: rest) m
  | react {r : Reaction} {k : Nat} {rest : List Task} {m : Nat} :
      r.Within k → Owes rest m → Owes (.react r :: rest) (k + m)

theorem Owes.reports (h : Owes rest m) (es : List Entry) : Owes (es.map .report ++ rest) m := by
  induction es with
  | nil => exact h
  | cons e es ih => exact ih.report

/-- **A task is paid for** by the reactions due, or by the call that it is. -/
theorem Owes.step (within : ∀ n e, (hook n e).Within k) (h : Owes s.agenda m)
    (hbusy : s.agenda ≠ []) : ∃ m', Owes (s.step hook).agenda m' ∧
      m' + 1 + (k + 1) * s.reported.length ≤ m + (k + 1) * (s.step hook).reported.length := by
  obtain ⟨store, agenda, reported⟩ := s
  cases h with
  | nil => exact absurd rfl hbusy
  | @report e rest m h =>
    refine ⟨k + m, h.react (within _ _), ?_⟩
    show k + m + 1 + (k + 1) * reported.length ≤ m + (k + 1) * (reported.length + 1)
    rw [Nat.mul_succ]
    omega
  | @react r l rest m hr h =>
    -- Nobody is called here, so the reaction pays for its own task.
    cases hr with
    | @done l =>
      refine ⟨m, h, ?_⟩
      show m + 1 + (k + 1) * reported.length ≤ l + 1 + m + (k + 1) * reported.length
      omega
    | @get l key next hnext =>
      refine ⟨l + m, h.react (hnext _), ?_⟩
      show l + m + 1 + (k + 1) * reported.length ≤ l + 1 + m + (k + 1) * reported.length
      omega
    | @add l key value next hnext =>
      refine ⟨l + m, (h.react hnext).reports _, ?_⟩
      show l + m + 1 + (k + 1) * reported.length ≤ l + 1 + m + (k + 1) * reported.length
      omega

theorem run_step (hook : Hook) (n : Nat) (s : Session) :
    run hook (n + 1) s = (run hook n s).step hook := by
  rw [run_add, run_succ, run]

theorem Owes.run (within : ∀ n e, (hook n e).Within k) (h : Owes s.agenda m)
    (hbusy : (Session.run hook n s).agenda ≠ []) :
    ∃ m', Owes (Session.run hook (n + 1) s).agenda m' ∧ m' + (n + 1) + (k + 1) * s.reported.length ≤
      m + (k + 1) * (Session.run hook (n + 1) s).reported.length := by
  induction n with
  | zero =>
    rw [run_succ]
    exact h.step within hbusy
  | succ n ih =>
    -- While something is due, something was due before.
    have hbusy' : (Session.run hook n s).agenda ≠ [] := by
      intro hidle
      rw [run_add, run_of_agenda hidle] at hbusy
      exact hbusy hidle
    obtain ⟨m', hm', hle⟩ := ih hbusy'
    obtain ⟨m'', hm'', hle'⟩ := hm'.step within hbusy
    rw [run_step hook (n + 1)]
    exact ⟨m'', hm'', by omega⟩

theorem length_reported_le (hook : Hook) (s : Session) :
    s.reported.length ≤ (s.step hook).reported.length := by
  -- A report is put on record, and no other task touches the record.
  obtain ⟨store, agenda, reported⟩ := s
  rcases agenda with _ | ⟨e | (_ | _ | _), rest⟩
  all_goals first | exact Nat.le_refl _ | exact Nat.le_succ _

theorem length_reported_run_le (hook : Hook) (n : Nat) (s : Session) :
    s.reported.length ≤ (run hook n s).reported.length := by
  induction n with
  | zero => exact Nat.le_refl _
  | succ n ih =>
    rw [run_step]
    exact Nat.le_trans ih (length_reported_le hook _)

/-- Where work comes to an end at all, no more calls are made after any number of tasks. -/
theorem length_reported_le_of_agenda (h : (run hook N s).agenda = []) (n : Nat) :
    (run hook n s).reported.length ≤ (run hook N s).reported.length := by
  rcases Nat.le_total n N with hle | hle
  · obtain ⟨d, rfl⟩ := Nat.exists_eq_add_of_le hle
    rw [run_add]
    exact length_reported_run_le hook d _
  · obtain ⟨d, rfl⟩ := Nat.exists_eq_add_of_le hle
    exact Nat.le_of_eq (by rw [run_add, run_of_agenda h])

/-- **Enough tasks**: as many for each call as a reaction takes, and one for the call. -/
theorem agenda_run_eq_nil (within : ∀ n e, (hook n e).Within k) (hend : (run hook N s).agenda = [])
    (h : Owes s.agenda 0) (hn : (k + 1) * (run hook N s).reported.length ≤ n) :
    (run hook n s).agenda = [] := by
  -- If something were due still, one task more would be more than all calls pay for.
  by_contra hbusy
  obtain ⟨m, -, hle⟩ := h.run within hbusy
  have hcalls := Nat.mul_le_mul_left (k + 1) (length_reported_le_of_agenda hend (n + 1))
  omega

end Session

namespace Store

variable {s : Store} {hook : Hook}

theorem Sound.worth_le (h : s.Sound) : s.worth ≤ s.lru.used + s.lru.size := by
  obtain ⟨es, h⟩ := h
  rw [worth, h.entries_eq, h.used_eq, h.size_eq]
  clear h
  induction es with
  | nil => exact Nat.le_refl _
  | cons e es ih =>
    rw [Recency.worth_cons, Recency.weight, List.map_cons, List.sum_cons, List.length_cons,
      Entry.cost]
    rw [Recency.weight] at ih
    omega

theorem addReporting_eq (hook : Hook) (s : Store) (key : String) (value : Value) :
    s.addReporting hook key value =
      Session.run hook (s.effort value.size) ((Session.ofStore s).insert key value []) := by
  rw [Session.insert, List.append_nil]
  rfl

/-- **The tasks that are done after an insertion are enough** for a hook with short reactions. -/
theorem Sound.agenda_addReporting (h : s.Sound) (short : hook.Short) (key : String)
    (value : Value) : (s.addReporting hook key value).agenda = [] := by
  obtain ⟨N, hN⟩ :=
    (Session.ends short.shrinks _).exists_returned (s := .ofStore s) h (Nat.le_refl _) key []
  obtain ⟨calls, hcalls, hle⟩ := hN.calls
  rw [addReporting_eq]
  refine Session.agenda_run_eq_nil short.within hN.agenda (Session.Owes.nil.reports _) ?_
  have hworth := h.worth_le
  have hstore : (Session.ofStore s).store.worth = s.worth := rfl
  have hlength : (calls ++ (Session.ofStore s).reported).length = calls.length :=
    congrArg List.length (List.append_nil calls)
  rw [hcalls, hlength, effort]
  omega

end Store

namespace Session

variable {hook : Hook} {s : Session} {budget : Nat} {ms : List (Moment Session Event)}

/-- **Insertions return**, with any of the hooks that a store can be told to use: nothing is due any
more, and the hook was called once for each entry that was ever evicted. -/
theorem addReporting_returns (hmem : hook ∈ [Hook.quiet, Hook.lookUp, Hook.halve])
    (run : Run (step? hook) (ofStore (.empty budget)) ms s) (hidle : s.agenda = []) (key : String)
    (value : Value) : (s.addReporting hook key value).agenda = [] ∧
      (s.addReporting hook key value).reported.length =
        (s.addReporting hook key value).store.stats.evictions := by
  have short : hook.Short := by
    simp only [List.mem_cons, List.not_mem_nil, or_false] at hmem
    rcases hmem with rfl | rfl | rfl
    · exact .quiet
    · exact .lookUp
    · exact .halve
  have hreturned : (s.addReporting hook key value).agenda = [] :=
    (fits_of_run run).sound.agenda_addReporting (short.shift _) key value
  obtain ⟨ms', run'⟩ := exists_run_addReporting hook hidle key value
  have conserved := Conserved.of_run (run.append run')
  refine ⟨hreturned, ?_⟩
  rw [conserved.record, List.length_reverse, conserved.calls hreturned]

end Session

end ReadThrough
