import Mathlib.Data.List.Forall2
import Mathlib.Data.List.Induction

/-!
# Runs

A system moves from state to state by events, each of which is possible in some states only. A run
is kept moment by moment, the first in front, so that one can say what came before a moment, what
came after it, and how often something happened.

## Main definitions

* `Moment σ ε`: an event with the states before and after it
* `Run step? s ms t`: the moments `ms` lead from `s` to `t`
* `trail step? s es`: the run that a list of events makes
* `transcript step s is`, `stateAfter step s is`: what a machine that takes every input puts out, and
  where it ends
* `peak step measure s is`: the largest that something gets on the way

## Main results

* `Run.of_append`, `Run.at_moment`: a run splits at each of its moments
* `Run.invariant`: what every step keeps holds at the end of a run
* `Run.kept_or_exists`: what some steps may end holds at the end, unless one of them happens
* `run_trail`, `trail_of_run`: every list of events makes a run, and a run is what its events make
* `forall₂_transcript_of_related`, `transcript_eq_of_related`: two machines put out related things,
  or the same, if their steps do
* `transcript_eq_map_iff`: a machine answers as expected to all inputs if they are of one kind
* `measure_stateAfter`: what only ever grows up to something is its peak in the end
-/

namespace ReadThrough

/-- An event with the states before and after it. -/
structure Moment (σ ε : Type) where
  /-- The state before the event. -/
  before : σ
  /-- The event. -/
  event : ε
  /-- The state after the event. -/
  after : σ

/-- The moments `ms`, the first in front, lead from `s` to the last state. -/
inductive Run {σ ε : Type} (step? : σ → ε → Option σ) (s : σ) : List (Moment σ ε) → σ → Prop where
  /-- Nothing has happened. -/
  | nil : Run step? s [] s
  /-- One event more. -/
  | snoc {ms : List (Moment σ ε)} {t u : σ} {e : ε} :
      Run step? s ms t → step? t e = some u → Run step? s (ms ++ [⟨t, e, u⟩]) u

/-- The run that a list of events makes, with its last state; an event that is not possible when
its turn comes is left out. -/
def trail {σ ε : Type} (step? : σ → ε → Option σ) : σ → List ε → List (Moment σ ε) × σ
  | s, [] => ([], s)
  | s, e :: es =>
    match step? s e with
    | some t => (⟨s, e, t⟩ :: (trail step? t es).1, (trail step? t es).2)
    | none => trail step? s es

variable {σ ε : Type} {step? : σ → ε → Option σ} {s t u : σ} {e : ε} {ms : List (Moment σ ε)}

namespace Run

theorem cons (he : step? s e = some t) (run : Run step? t ms u) :
    Run step? s (⟨s, e, t⟩ :: ms) u := by
  induction run with
  | nil => exact Run.snoc .nil he
  | snoc _ hf ih => exact Run.snoc ih hf

theorem eq_of_nil (run : Run step? s [] t) : t = s := by
  generalize hl : ([] : List (Moment σ ε)) = l at run
  cases run with
  | nil => rfl
  | snoc _ _ => simp at hl

/-- A run goes on with another that begins where it ends. -/
theorem append {ms' : List (Moment σ ε)} (run : Run step? s ms t) (run' : Run step? t ms' u) :
    Run step? s (ms ++ ms') u := by
  induction run' with
  | nil => simpa using run
  | snoc _ he ih =>
    rw [← List.append_assoc]
    exact Run.snoc ih he

/-- A run splits wherever its list of moments does. -/
theorem of_append {ms' : List (Moment σ ε)} (run : Run step? s (ms ++ ms') u) :
    ∃ t, Run step? s ms t ∧ Run step? t ms' u := by
  -- A run grows at its end, so moments are taken off the end of the second part.
  induction ms' using List.reverseRecOn generalizing u with
  | nil => exact ⟨u, by simpa using run, .nil⟩
  | append_singleton ms' m ih =>
    rw [← List.append_assoc] at run
    generalize hl : ms ++ ms' ++ [m] = l at run
    cases run with
    | nil => simp at hl
    | snoc run' he =>
      obtain ⟨rfl, rfl⟩ := List.append_inj' hl rfl |>.imp id List.singleton_inj.mp
      obtain ⟨t, h₁, h₂⟩ := ih run'
      exact ⟨t, h₁, h₂.snoc he⟩

/-- **A run at one of its moments**: what came before leads to the state before it, its event was
possible, and the rest goes on from the state after it. -/
theorem at_moment {pre post : List (Moment σ ε)} {m : Moment σ ε}
    (run : Run step? s (pre ++ m :: post) u) :
    Run step? s pre m.before ∧ step? m.before m.event = some m.after ∧
      Run step? m.after post u := by
  rw [List.append_cons] at run
  obtain ⟨t, h₁, h₂⟩ := run.of_append
  generalize hl : pre ++ [m] = l at h₁
  cases h₁ with
  | nil => simp at hl
  | snoc h he =>
    obtain ⟨rfl, rfl⟩ := List.append_inj' hl rfl |>.imp id List.singleton_inj.mp
    exact ⟨h, he, h₂⟩

/-- What holds at the start and is kept by every step holds at the end. -/
theorem invariant {P : σ → Prop} (start : P s)
    (keep : ∀ {t e u}, P t → step? t e = some u → P u) (run : Run step? s ms u) : P u := by
  induction run with
  | nil => exact start
  | snoc _ he ih => exact keep ih he

/-- What holds at the start and is kept by every step holds before every event. -/
theorem invariant_before {P : σ → Prop} (start : P s)
    (keep : ∀ {t e u}, P t → step? t e = some u → P u) (run : Run step? s ms u)
    {m : Moment σ ε} (hm : m ∈ ms) : P m.before := by
  obtain ⟨pre, post, rfl⟩ := List.append_of_mem hm
  exact run.at_moment.1.invariant start keep

/-- What holds at the start holds at the end, unless something happens that can put an end to it. -/
theorem kept_or_exists {P : σ → Prop} {Q : Moment σ ε → Prop} (run : Run step? s ms u) (start : P s)
    (keep : ∀ m ∈ ms, P m.before → P m.after ∨ Q m) : P u ∨ ∃ m ∈ ms, Q m := by
  induction run with
  | nil => exact .inl start
  | @snoc ms t u e _ _ ih =>
    rcases ih fun m hm => keep m (List.mem_append_left _ hm) with ht | ⟨m, hm, hq⟩
    · have hlast : (⟨t, e, u⟩ : Moment σ ε) ∈ ms ++ [⟨t, e, u⟩] := List.mem_concat_self
      rcases keep _ hlast ht with hu | hq
      · exact .inl hu
      · exact .inr ⟨_, hlast, hq⟩
    · exact .inr ⟨m, List.mem_append_left _ hm, hq⟩

end Run

/-- **Every list of events makes a run.** -/
theorem run_trail (step? : σ → ε → Option σ) (s : σ) (es : List ε) :
    Run step? s (trail step? s es).1 (trail step? s es).2 := by
  induction es generalizing s with
  | nil => exact .nil
  | cons e es ih =>
    cases he : step? s e with
    | none => simpa only [trail, he] using ih s
    | some t => simpa only [trail, he] using Run.cons he (ih t)

/-- The events of a run make this run. -/
theorem trail_of_run (run : Run step? s ms t) : trail step? s (ms.map (·.event)) = (ms, t) := by
  induction ms generalizing s with
  | nil =>
    rw [run.eq_of_nil]
    rfl
  | cons m ms ih =>
    have split : Run step? s ([] ++ m :: ms) t := run
    obtain ⟨start, hm, rest⟩ := split.at_moment
    rw [start.eq_of_nil] at hm
    rw [List.map_cons]
    simp only [trail, hm, ih rest]
    rw [← start.eq_of_nil]

/-! ## Machines

A machine takes every input in every state, and puts something out for each. -/

section Machines

variable {τ ι ο : Type}

/-- What a machine puts out for inputs, one after the other. -/
def transcript (step : σ → ι → σ × ο) : σ → List ι → List ο
  | _, [] => []
  | s, i :: is => (step s i).2 :: transcript step (step s i).1 is

/-- The state of a machine after inputs, one after the other. -/
def stateAfter (step : σ → ι → σ × ο) (s : σ) (is : List ι) : σ :=
  is.foldl (fun s i => (step s i).1) s

/-- The largest that `measure` gets while a machine takes inputs, one after the other; it measures a
state together with the input taken in it. -/
def peak (step : σ → ι → σ × ο) (measure : σ → ι → Nat) : σ → List ι → Nat
  | _, [] => 0
  | s, i :: is => max (measure s i) (peak step measure (step s i).1 is)

/-- Two machines put out related things if they start in related states, and related states put out
related things for every input and stay related. -/
theorem forall₂_transcript_of_related {ο' : Type} {step : σ → ι → σ × ο} {step' : τ → ι → τ × ο'}
    {R : σ → τ → Prop} {P : ο → ο' → Prop} {s : σ} {t : τ}
    (keep : ∀ {s t}, R s t → ∀ i, P (step s i).2 (step' t i).2 ∧ R (step s i).1 (step' t i).1)
    (h : R s t) (is : List ι) : List.Forall₂ P (transcript step s is) (transcript step' t is) ∧
      R (stateAfter step s is) (stateAfter step' t is) := by
  induction is generalizing s t with
  | nil => exact ⟨.nil, h⟩
  | cons i is ih =>
    obtain ⟨hout, hrel⟩ := keep h i
    obtain ⟨htail, hlast⟩ := ih hrel
    exact ⟨.cons hout htail, hlast⟩

/-- **Two machines put out the same** if related states do for every input and stay related. -/
theorem transcript_eq_of_related {step : σ → ι → σ × ο} {step' : τ → ι → τ × ο}
    {R : σ → τ → Prop} {s : σ} {t : τ}
    (keep : ∀ {s t}, R s t → ∀ i, (step s i).2 = (step' t i).2 ∧ R (step s i).1 (step' t i).1)
    (h : R s t) (is : List ι) : transcript step s is = transcript step' t is ∧
      R (stateAfter step s is) (stateAfter step' t is) := by
  obtain ⟨hout, hlast⟩ := forall₂_transcript_of_related (P := (· = ·)) keep h is
  exact ⟨List.forall₂_eq_eq_eq ▸ hout, hlast⟩

/-- **A machine answers as expected** to all inputs if they are of one kind, provided that in some
states it does so to an input exactly if it is of this kind, and such inputs keep these states. -/
theorem transcript_eq_map_iff {step : σ → ι → σ × ο} {expected : ι → ο} {good : ι → Prop}
    {J : σ → Prop} {s : σ}
    (answers : ∀ {s}, J s → ∀ i, (step s i).2 = expected i ↔ good i)
    (keep : ∀ {s}, J s → ∀ i, good i → J (step s i).1) (h : J s) (is : List ι) :
    transcript step s is = is.map expected ↔ ∀ i ∈ is, good i := by
  induction is generalizing s with
  | nil => simp [transcript]
  | cons i is ih =>
    rw [transcript, List.map_cons, List.cons.injEq, answers h i, List.forall_mem_cons]
    exact and_congr_right fun hi => ih (keep h i hi)

/-- **What grows in each step up to a measure of it** has grown up to the peak of this measure. -/
theorem measure_stateAfter {step : σ → ι → σ × ο} {measure : σ → ι → Nat} {f : σ → Nat}
    {J : σ → Prop} {s : σ} (grow : ∀ {s}, J s → ∀ i, f (step s i).1 = max (f s) (measure s i))
    (keep : ∀ {s}, J s → ∀ i, J (step s i).1) (h : J s) (is : List ι) :
    f (stateAfter step s is) = max (f s) (peak step measure s is) := by
  induction is generalizing s with
  | nil => exact (Nat.max_zero _).symm
  | cons i is ih =>
    calc f (stateAfter step s (i :: is)) = f (stateAfter step (step s i).1 is) := rfl
      _ = max (f (step s i).1) (peak step measure (step s i).1 is) := ih (keep h i)
      _ = max (f s) (peak step measure s (i :: is)) := by rw [grow h i, Nat.max_assoc]; rfl

/-- Two machines have the same peaks if related states measure the same for every input and stay
related. -/
theorem peak_eq_of_related {ο' : Type} {step : σ → ι → σ × ο} {step' : τ → ι → τ × ο'}
    {measure : σ → ι → Nat} {measure' : τ → ι → Nat} {R : σ → τ → Prop} {s : σ} {t : τ}
    (keep : ∀ {s t}, R s t → ∀ i, measure s i = measure' t i ∧ R (step s i).1 (step' t i).1)
    (h : R s t) (is : List ι) : peak step measure s is = peak step' measure' t is := by
  induction is generalizing s t with
  | nil => rfl
  | cons i is ih =>
    obtain ⟨hmeasure, hrel⟩ := keep h i
    rw [peak, peak, hmeasure, ih hrel]

end Machines

end ReadThrough
