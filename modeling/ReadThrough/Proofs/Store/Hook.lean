import Mathlib
import ReadThrough.Proofs.Lru.Refinement
import ReadThrough.Proofs.Store.Contents
import ReadThrough.Store.Hook

/-!
# What a store with a hook has counted

A hook may look up and insert while reports of evicted entries are still due, and what it inserts
may evict further entries, or bring back one whose report is due. The counts of the store are right
all the same. What an insertion evicts is counted at once and reported later, so the two numbers
differ by the reports that are due, whoever inserts; and they agree as soon as nothing is due.

Calls come from outside only when nothing is due, for an insertion is over only then. A hook knows
how many entries were reported before, so what any hook does along one run, with a memory of its own
or without, one of these does too.

## Main definitions

* `Session.step? hook`: an event in the life of a store with a hook
* `Session.Deed`, `Session.deed`: what an event does to the store or for it
* `Session.calls`, `Session.evictions`, `Session.gets`, `Session.hits`, `Session.insertions`: how
  often something was done in a run
* `Session.Conserved budget ms s`: what is known of a store after a run

## Main results

* `Session.step_of_step?`: what an event changes
* `Session.Ledger.snoc`: every deed keeps the counts right
* `Session.exists_run_addReporting`: an insertion with all that follows from it is a run
* `Session.conserved_of_run`: entries are conserved, and each eviction is reported once
-/

namespace ReadThrough

/-! ## Stores within their budget -/

namespace Store

/-- The entries of the store are in order and fit its budget. -/
def Fits (budget : Nat) (s : Store) : Prop := ∃ es, s.lru.Fits budget es

namespace Fits

variable {budget : Nat} {s : Store}

theorem empty (budget : Nat) : (Store.empty budget).Fits budget := ⟨[], .empty budget⟩

theorem sound (h : s.Fits budget) : s.Sound := by
  obtain ⟨es, hshows, -⟩ := h
  exact ⟨es, hshows⟩

theorem get (h : s.Fits budget) (key : String) : (s.get key).1.Fits budget := by
  obtain ⟨es, h⟩ := h
  exact ⟨_, (h.step true (.get key)).2⟩

theorem add (h : s.Fits budget) (key : String) (value : Value) :
    (s.add key value).1.Fits budget := by
  obtain ⟨es, h⟩ := h
  exact ⟨_, (h.step true (.add key value)).2⟩

theorem bytes_le (h : s.Fits budget) : s.stats.bytes ≤ budget := by
  obtain ⟨es, hshows, -, hfit⟩ := h
  show s.lru.used ≤ budget
  rwa [hshows.used_eq]

end Fits

namespace Sound

variable {s : Store}

theorem bytes_eq (h : s.Sound) : s.stats.bytes =
    (s.lru.entries.map fun e => e.key.utf8ByteSize + e.value.size).sum := by
  obtain ⟨es, h⟩ := h
  rw [h.entries_eq]
  exact h.used_eq

theorem items_eq (h : s.Sound) : s.stats.items = s.lru.entries.length := by
  obtain ⟨es, h⟩ := h
  rw [h.entries_eq]
  exact h.size_eq

theorem keys_nodup (h : s.Sound) : (s.lru.entries.map (·.key)).Nodup := by
  obtain ⟨es, h⟩ := h
  rw [h.entries_eq]
  exact h.keys_nodup

/-- The entries present are those that lookups find. -/
theorem mem_entries_iff (h : s.Sound) {e : Entry} :
    e ∈ s.lru.entries ↔ s.find? e.key = some e.value := by
  obtain ⟨es, h⟩ := h
  rw [h.entries_eq, find?_eq h]
  constructor
  · exact Recency.lookup_of_mem h.keys_nodup
  · exact Recency.mem_of_lookup

end Sound

end Store

/-- The entry a task reports. -/
def Task.entry? : Task → Option Entry
  | .report e => some e
  | .react _ => none

namespace Session

/-! ## Events -/

/-- A store about which nothing is due. -/
def ofStore (store : Store) : Session := ⟨store, [], []⟩

/-- The evicted entries whose reports are due. -/
def due (s : Session) : List Entry := s.agenda.filterMap Task.entry?

/-- What can happen to a store with a hook. -/
inductive Event where
  /-- A key is looked up from outside. -/
  | get (key : String)
  /-- A value is stored from outside. -/
  | add (key : String) (value : Value)
  /-- The next task due is done. -/
  | work

/-- The state after an event, if it is possible: calls come from outside when nothing is due. -/
def step? (hook : Hook) (s : Session) : Event → Option Session
  | .get key => if s.agenda.isEmpty then some { s with store := (s.store.get key).1 } else none
  | .add key value =>
    if s.agenda.isEmpty then
      let (store, evicted) := s.store.add key value
      some { s with store, agenda := evicted.map .report }
    else none
  | .work => if s.agenda.isEmpty then none else some (s.step hook)

/-- What is done to the store, or for it. -/
inductive Deed where
  /-- A key is looked up. -/
  | get (key : String)
  /-- A value is stored. -/
  | add (key : String) (value : Value)
  /-- The hook is called with an evicted entry. -/
  | report (e : Entry)
  /-- A reaction is over. -/
  | finish

/-- What an event does; a hook does the same things as a caller from outside. -/
def deed (s : Session) : Event → Deed
  | .get key => .get key
  | .add key value => .add key value
  | .work =>
    match s.agenda with
    | .report e :: _ => .report e
    | .react (.get key _) :: _ => .get key
    | .react (.add key value _) :: _ => .add key value
    | _ => .finish

namespace Deed

/-- The store after a deed. -/
def apply (store : Store) : Deed → Store
  | .get key => (store.get key).1
  | .add key value => (store.add key value).1
  | _ => store

/-- The entry the hook is called with. -/
def reported? : Deed → Option Entry
  | .report e => some e
  | _ => none

/-- The entries evicted from a store. -/
def evicted (store : Store) : Deed → List Entry
  | .add key value => (store.add key value).2
  | _ => []

/-- A key is looked up. -/
def isGet : Deed → Bool
  | .get _ => true
  | _ => false

/-- A key is looked up that has a value. -/
def isHit (store : Store) : Deed → Bool
  | .get key => (store.find? key).isSome
  | _ => false

/-- A value is stored under a key that has none. -/
def isNew (store : Store) : Deed → Bool
  | .add key _ => (store.find? key).isNone
  | _ => false

/-! ### What a deed does to the counts -/

variable {budget : Nat} {store : Store} (d : Deed)

theorem fits_apply (h : store.Fits budget) : (d.apply store).Fits budget := by
  cases d with
  | get key => exact h.get key
  | add key value => exact h.add key value
  | report e => exact h
  | finish => exact h

theorem evictions_apply : (d.apply store).counts.evictions =
    store.counts.evictions + (d.evicted store).length := by
  cases d <;> rfl

theorem gets_apply : (d.apply store).counts.gets = store.counts.gets + d.isGet.toNat := by
  cases d <;> rfl

theorem hits_apply : (d.apply store).counts.hits = store.counts.hits + (d.isHit store).toNat := by
  cases d with
  | get key =>
    show (store.counts.recordGet (store.find? key).isSome).hits = _
    cases h : store.find? key <;> simp [isHit, Store.Stats.recordGet, h]
  | add key value => rfl
  | report e => rfl
  | finish => rfl

/-- A key that is stored anew takes a place, and whatever is evicted gives one up. -/
theorem size_apply (h : store.Sound) : (d.apply store).size + (d.evicted store).length =
    store.size + (d.isNew store).toNat := by
  cases d with
  | get key => exact h.size_get
  | add key value =>
    show (store.add key value).1.size + (store.add key value).2.length =
      store.size + (store.find? key).isNone.toNat
    cases hk : store.find? key with
    | none => exact h.size_add hk value
    | some v => exact h.size_add_of_isSome (Option.isSome_iff_exists.mpr ⟨v, hk⟩) value
  | report e => rfl
  | finish => rfl

end Deed

/-! ## What an event changes -/

/-- What a deed changes. -/
structure Step (s : Session) (d : Deed) (t : Session) : Prop where
  /-- The deed is done to the store. -/
  store : t.store = d.apply s.store
  /-- What it evicts is to be reported next, and what it reports no more. -/
  due : d.reported?.toList ++ t.due = d.evicted s.store ++ s.due
  /-- What it reports is on record. -/
  reported : t.reported = d.reported?.toList ++ s.reported

variable {hook : Hook} {budget : Nat} {s t : Session} {ms : List (Moment Session Event)}

theorem due_eq_nil (h : s.agenda = []) : s.due = [] := by rw [due, h, List.filterMap_nil]

theorem filterMap_report (es : List Entry) (rest : List Task) :
    (es.map Task.report ++ rest).filterMap Task.entry? = es ++ rest.filterMap Task.entry? := by
  have hentry : Task.entry? ∘ Task.report = some := rfl
  rw [List.filterMap_append, List.filterMap_map, hentry, List.filterMap_some]

theorem step_of_work (h : s.agenda ≠ []) : Step s (s.deed .work) (s.step hook) := by
  obtain ⟨store, agenda, reported⟩ := s
  cases agenda with
  | nil => exact absurd rfl h
  | cons task rest =>
    cases task with
    | report e => exact ⟨rfl, rfl, rfl⟩
    | react r =>
      cases r with
      | done => exact ⟨rfl, rfl, rfl⟩
      | get key next => exact ⟨rfl, rfl, rfl⟩
      | add key value next => exact ⟨rfl, filterMap_report _ _, rfl⟩

/-- **What an event changes.** -/
theorem step_of_step? {e : Event} (h : step? hook s e = some t) : Step s (s.deed e) t := by
  cases e with
  | get key =>
    obtain ⟨-, ht⟩ := Option.ite_none_right_eq_some.mp h
    obtain rfl := Option.some.inj ht
    exact ⟨rfl, rfl, rfl⟩
  | add key value =>
    obtain ⟨hidle, ht⟩ := Option.ite_none_right_eq_some.mp h
    obtain rfl := Option.some.inj ht
    refine ⟨rfl, ?_, rfl⟩
    -- Nothing was due before.
    rw [due_eq_nil (List.isEmpty_iff.mp hidle)]
    have hdue := filterMap_report (s.store.add key value).2 []
    rwa [List.append_nil] at hdue
  | work =>
    obtain ⟨hbusy, ht⟩ := Option.ite_none_left_eq_some.mp h
    obtain rfl := Option.some.inj ht
    exact step_of_work (by simpa using hbusy)

/-! ## Counting -/

/-- The entries the hook was called with in a run, in the order of the calls. -/
def calls (ms : List (Moment Session Event)) : List Entry :=
  ms.filterMap fun m => (m.before.deed m.event).reported?

/-- The entries evicted in a run, in order. -/
def evictions (ms : List (Moment Session Event)) : List Entry :=
  ms.flatMap fun m => (m.before.deed m.event).evicted m.before.store

/-- How many lookups there were, from outside and by the hook. -/
def gets (ms : List (Moment Session Event)) : Nat :=
  ms.countP fun m => (m.before.deed m.event).isGet

/-- How many of the lookups were answered. -/
def hits (ms : List (Moment Session Event)) : Nat :=
  ms.countP fun m => (m.before.deed m.event).isHit m.before.store

/-- How many insertions there were, from outside and by the hook, for keys that were absent then. -/
def insertions (ms : List (Moment Session Event)) : Nat :=
  ms.countP fun m => (m.before.deed m.event).isNew m.before.store

theorem calls_snoc {e : Event} :
    calls (ms ++ [⟨s, e, t⟩]) = calls ms ++ (s.deed e).reported?.toList := by
  rw [calls, List.filterMap_append]
  cases h : (s.deed e).reported? <;> simp [calls, h]

theorem evictions_snoc {e : Event} :
    evictions (ms ++ [⟨s, e, t⟩]) = evictions ms ++ (s.deed e).evicted s.store := by
  simp [evictions]

theorem gets_snoc {e : Event} :
    gets (ms ++ [⟨s, e, t⟩]) = gets ms + (s.deed e).isGet.toNat := by
  cases h : (s.deed e).isGet <;> simp [gets, h]

theorem hits_snoc {e : Event} :
    hits (ms ++ [⟨s, e, t⟩]) = hits ms + ((s.deed e).isHit s.store).toNat := by
  cases h : (s.deed e).isHit s.store <;> simp [hits, h]

theorem insertions_snoc {e : Event} :
    insertions (ms ++ [⟨s, e, t⟩]) = insertions ms + ((s.deed e).isNew s.store).toNat := by
  cases h : (s.deed e).isNew s.store <;> simp [insertions, h]

/-! ## The counts of a store -/

/-- The counts of a store are those of the run it comes from. -/
structure Ledger (ms : List (Moment Session Event)) (s : Session) : Prop where
  /-- The record of calls is right. -/
  record : s.reported = (calls ms).reverse
  /-- The entries evicted were reported, or will be. -/
  reports : (calls ms ++ s.due).Perm (evictions ms)
  evicted : (evictions ms).length = s.store.counts.evictions
  gets : gets ms = s.store.counts.gets
  hits : hits ms = s.store.counts.hits
  /-- What was inserted is there, or was evicted. -/
  inserted : insertions ms = s.store.size + s.store.counts.evictions

theorem Ledger.empty (budget : Nat) : Ledger [] (ofStore (.empty budget)) :=
  ⟨rfl, .nil, rfl, rfl, rfl, rfl⟩

/-- **Every deed keeps the counts right.** -/
theorem Ledger.snoc (ledger : Ledger ms s) (sound : s.store.Sound) {e : Event}
    (step : Step s (s.deed e) t) : Ledger (ms ++ [⟨s, e, t⟩]) t where
  record := by
    rw [calls_snoc, step.reported, ledger.record, List.reverse_append]
    cases (s.deed e).reported? <;> rfl
  reports := by
    rw [calls_snoc, evictions_snoc, List.append_assoc, step.due]
    -- What is evicted now is due before the rest, and was evicted after it.
    have hswap : (calls ms ++ ((s.deed e).evicted s.store ++ s.due)).Perm
        (calls ms ++ s.due ++ (s.deed e).evicted s.store) := by
      rw [List.append_assoc]
      exact List.perm_append_comm.append_left _
    exact hswap.trans (ledger.reports.append_right _)
  evicted := by
    rw [evictions_snoc, List.length_append, step.store, Deed.evictions_apply, ledger.evicted]
  gets := by rw [gets_snoc, step.store, Deed.gets_apply, ledger.gets]
  hits := by rw [hits_snoc, step.store, Deed.hits_apply, ledger.hits]
  inserted := by
    have hsize := (s.deed e).size_apply sound
    rw [insertions_snoc, step.store, Deed.evictions_apply, ledger.inserted]
    omega

/-! ## What was current until it was evicted -/

/-- At a moment of a run an entry was evicted: by an insertion, which put it there itself, or found
it there under another key. -/
def EvictedAt (m : Moment Session Event) (e : Entry) : Prop :=
  ∃ key value, m.before.deed m.event = .add key value ∧
    e ∈ (m.before.store.add key value).2 ∧
    (e = ⟨key, value⟩ ∨ e.key ≠ key ∧ m.before.store.find? e.key = some e.value) ∧
    m.after.store.find? e.key = none

theorem evictedAt_of_mem {m : Moment Session Event} {e : Entry} (sound : m.before.store.Sound)
    (step : Step m.before (m.before.deed m.event) m.after)
    (he : e ∈ (m.before.deed m.event).evicted m.before.store) : EvictedAt m e := by
  have hstore := step.store
  generalize hd : m.before.deed m.event = d at he hstore
  cases d with
  | add key value =>
    refine ⟨key, value, hd, he, sound.evicted_entry he, ?_⟩
    rw [hstore]
    exact sound.find?_add.trans (if_pos (List.mem_map_of_mem he))
  | get key => cases he
  | report e' => cases he
  | finish => cases he

/-! ## Runs -/

theorem fits_of_run (run : Run (step? hook) (ofStore (.empty budget)) ms s) :
    s.store.Fits budget := by
  refine run.invariant (P := fun s => s.store.Fits budget) (.empty budget) fun {t e u} ht he => ?_
  rw [(step_of_step? he).store]
  exact (t.deed e).fits_apply ht

theorem ledger_of_run (run : Run (step? hook) (ofStore (.empty budget)) ms s) : Ledger ms s := by
  induction run with
  | nil => exact .empty budget
  | snoc run he ih => exact ih.snoc (fits_of_run run).sound (step_of_step? he)

/-- Whoever is called with an entry, it was evicted before. -/
theorem exists_evictedAt (run : Run (step? hook) (ofStore (.empty budget)) ms s)
    {e : Entry} (he : e ∈ evictions ms) : ∃ m ∈ ms, EvictedAt m e := by
  obtain ⟨m, hm, hem⟩ := List.mem_flatMap.mp he
  obtain ⟨pre, post, rfl⟩ := List.append_of_mem hm
  obtain ⟨run', hm', -⟩ := run.at_moment
  exact ⟨m, hm, evictedAt_of_mem (fits_of_run run').sound (step_of_step? hm') hem⟩

/-! ## An insertion with all that follows from it -/

/-- The session of a hook that was called before. -/
def behind (s : Session) (earlier : List Entry) : Session :=
  { s with reported := s.reported ++ earlier }

/-- The session after an insertion from outside, with all that follows from it. -/
def addReporting (hook : Hook) (s : Session) (key : String) (value : Value) : Session :=
  (s.store.addReporting (fun n => hook (n + s.reported.length)) key value).behind s.reported

theorem step_behind (s : Session) (earlier : List Entry) :
    (s.behind earlier).step hook =
      (s.step fun n => hook (n + earlier.length)).behind earlier := by
  obtain ⟨store, agenda, reported⟩ := s
  cases agenda with
  | nil => rfl
  | cons task rest =>
    cases task with
    | report e => simp [step, behind]
    | react r => cases r <;> rfl

theorem exists_run_behind (hook : Hook) (earlier : List Entry) (n : Nat) (s : Session) :
    ∃ ms, Run (step? hook) (s.behind earlier) ms
      ((run (fun n => hook (n + earlier.length)) n s).behind earlier) := by
  induction n generalizing s with
  | zero => exact ⟨[], .nil⟩
  | succ n ih =>
    rw [run]
    split
    · exact ⟨[], .nil⟩
    · rename_i hidle
      have hbusy : ¬ (s.behind earlier).agenda.isEmpty := hidle
      obtain ⟨ms, rest⟩ := ih (s.step fun n => hook (n + earlier.length))
      have hfirst : step? hook (s.behind earlier) .work =
          some ((s.step fun n => hook (n + earlier.length)).behind earlier) := by
        rw [step?, if_neg hbusy, step_behind]
      exact ⟨_, rest.cons hfirst⟩

/-- **An insertion with all that follows from it is a run**, if nothing else is due. -/
theorem exists_run_addReporting (hook : Hook) (h : s.agenda = []) (key : String) (value : Value) :
    ∃ ms, Run (step? hook) s ms (s.addReporting hook key value) := by
  obtain ⟨ms, rest⟩ := exists_run_behind hook s.reported (s.store.effort value.size)
    ⟨(s.store.add key value).1, (s.store.add key value).2.map .report, []⟩
  have hfirst : step? hook s (.add key value) = some
      ⟨(s.store.add key value).1, (s.store.add key value).2.map .report, s.reported⟩ := by
    rw [step?, if_pos (List.isEmpty_iff.mpr h)]
  exact ⟨_, rest.cons hfirst⟩

/-! ## Conservation -/

/-- What is known of a store with a budget, and of its hook, after a run. -/
structure Conserved (budget : Nat) (ms : List (Moment Session Event)) (s : Session) : Prop where
  /-- The entries the hook was called with are on record. -/
  record : s.reported = (Session.calls ms).reverse
  /-- When nothing is due, the hook was called as often as entries were evicted. -/
  calls : s.agenda = [] → (Session.calls ms).length = s.store.stats.evictions
  /-- Each eviction was reported once, unless the report is due. -/
  reports : (Session.calls ms ++ s.due).Perm (evictions ms)
  /-- Whatever the hook was called with was current until an earlier insertion evicted it. -/
  current : ∀ pre m post e, ms = pre ++ m :: post → m.before.deed m.event = .report e →
    ∃ m' ∈ pre, EvictedAt m' e
  /-- Insertions for absent keys have left an entry that is there, or was evicted. -/
  insertions : insertions ms = s.store.stats.items + s.store.stats.evictions
  /-- Every lookup is counted, -/
  gets : gets ms = s.store.stats.gets
  /-- and whether it was answered. -/
  hits : hits ms = s.store.stats.hits
  /-- The entries present are those that lookups find, -/
  present : ∀ e, e ∈ s.store.lru.entries ↔ s.store.find? e.key = some e.value
  /-- one for a key, -/
  keys_nodup : (s.store.lru.entries.map (·.key)).Nodup
  /-- and their number is known -/
  items : s.store.stats.items = s.store.lru.entries.length
  /-- as is that of their bytes. -/
  bytes : s.store.stats.bytes =
    (s.store.lru.entries.map fun e => e.key.utf8ByteSize + e.value.size).sum
  /-- The bytes fit the budget, -/
  bytes_le : s.store.stats.bytes ≤ budget
  /-- and did so whenever something happened, in particular when the hook was called. -/
  bytes_le_before : ∀ m ∈ ms, m.before.store.stats.bytes ≤ budget

theorem Conserved.of_run (run : Run (step? hook) (ofStore (.empty budget)) ms s) :
    Conserved budget ms s := by
  have ledger := ledger_of_run run
  have fits := fits_of_run run
  refine ⟨ledger.record, fun hidle => ?_, ledger.reports, ?_, ledger.inserted, ledger.gets,
    ledger.hits, fun e => fits.sound.mem_entries_iff, fits.sound.keys_nodup, fits.sound.items_eq,
    fits.sound.bytes_eq, fits.bytes_le, fun m hm => ?_⟩
  · have hreports := ledger.reports.length_eq
    rwa [due_eq_nil hidle, List.append_nil, ledger.evicted] at hreports
  · rintro pre m post e rfl hm
    obtain ⟨run', hm', -⟩ := run.at_moment
    -- At its report the entry is due, so it is one of those evicted.
    have hdue : e ∈ m.before.due := by
      have hfirst : m.before.due = e :: m.after.due := by
        have hstep := (step_of_step? hm').due
        rw [hm] at hstep
        exact hstep.symm
      rw [hfirst]
      exact List.mem_cons_self
    exact exists_evictedAt run' ((ledger_of_run run').reports.subset (List.mem_append_right _ hdue))
  · obtain ⟨pre, post, rfl⟩ := List.append_of_mem hm
    exact (fits_of_run run.at_moment.1).bytes_le

/-- **Entries are conserved.** Whatever the hook does, and whatever was looked up and stored from
outside, the counts of the store are right, and each eviction is reported once, with an entry that
was current until then. This goes for an insertion with everything that follows from it. -/
theorem conserved_of_run (run : Run (step? hook) (ofStore (.empty budget)) ms s) :
    Conserved budget ms s ∧ (s.agenda = [] → ∀ key value, ∃ ms',
      Run (step? hook) s ms' (s.addReporting hook key value) ∧
        Conserved budget (ms ++ ms') (s.addReporting hook key value)) := by
  refine ⟨.of_run run, fun hidle key value => ?_⟩
  obtain ⟨ms', run'⟩ := exists_run_addReporting hook hidle key value
  exact ⟨ms', run', .of_run (run.append run')⟩

/-- Looks up what is evicted first, and then stores something that evicts more. -/
def nested : Hook := fun n e => if n = 0 then .get e.key fun _ => .add "c" ⟨[3]⟩ .done else .done

/-- Two entries do not fit, and what the hook stores does not fit with the second. -/
def nestedEvents : List Event :=
  [.add "a" ⟨[1]⟩, .add "b" ⟨[2]⟩, .work, .work, .work, .work, .work, .work, .get "c"]

/-- The run of these events, with its last state. -/
def nestedRun : List (Moment Session Event) × Session :=
  trail (step? nested) (ofStore (.empty 3)) nestedEvents

theorem conserved_of_run_nested :
    (nestedRun.2.agenda = [] ∧ nestedRun.2.reported = [⟨"b", ⟨[2]⟩⟩, ⟨"a", ⟨[1]⟩⟩] ∧
      nestedRun.2.store.stats = { bytes := 2, items := 1, gets := 2, hits := 1, evictions := 2 }) ∧
      Conserved 3 nestedRun.1 nestedRun.2 := by
  have conserved : Conserved 3 nestedRun.1 nestedRun.2 :=
    (conserved_of_run (run_trail (step? nested) (ofStore (.empty 3)) nestedEvents)).1
  have agenda : nestedRun.2.agenda = [] := by cbv
  have reported : nestedRun.2.reported = [⟨"b", ⟨[2]⟩⟩, ⟨"a", ⟨[1]⟩⟩] := by cbv
  have items : nestedRun.2.store.stats.items = 1 := by
    rw [conserved.items]
    cbv
  have stats : nestedRun.2.store.stats =
      { bytes := 2, items := 1, gets := 2, hits := 1, evictions := 2 } := by
    show { nestedRun.2.store.counts with
      bytes := nestedRun.2.store.lru.used
      items := nestedRun.2.store.stats.items } = _
    rw [items]
    cbv
  exact ⟨⟨agenda, reported, stats⟩, conserved⟩

end Session

end ReadThrough
