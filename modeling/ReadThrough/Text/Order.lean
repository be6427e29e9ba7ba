/-!
# Lists of distinct texts in order

Texts are ordered by code point, which is the order of their encodings.

## Main definitions

* `sortedDistinct xs`: the texts of a list, ascending, each once

## Main results

* `pairwise_lt_mergeSort`: distinct things ascend strictly when they are sorted
* `mem_sortedDistinct`, `pairwise_sortedDistinct`: the texts are the same, and they do ascend
-/

namespace ReadThrough

/-- Distinct things ascend strictly when they are sorted. -/
theorem pairwise_lt_mergeSort {α : Type} [LE α] [DecidableLE α] [LT α] [Std.IsLinearOrder α]
    [Std.LawfulOrderLT α] {xs : List α} (h : xs.Nodup) :
    (xs.mergeSort fun a b => decide (a ≤ b)).Pairwise (· < ·) := by
  have hle : (xs.mergeSort fun a b => decide (a ≤ b)).Pairwise fun a b => decide (a ≤ b) := by
    apply List.pairwise_mergeSort
    · intro a b c hab hbc
      simp only [decide_eq_true_eq] at hab hbc ⊢
      exact Std.le_trans hab hbc
    · intro a b
      simpa using Std.le_total (a := a) (b := b)
  have hne : (xs.mergeSort fun a b => decide (a ≤ b)).Pairwise (· ≠ ·) :=
    (List.mergeSort_perm _ _).nodup_iff.mpr h
  refine (hle.and hne).imp ?_
  intro a b ⟨hab, hab'⟩
  exact Std.lt_of_le_of_ne (of_decide_eq_true hab) hab'

namespace Text

/-- The texts of a list, ascending, each once. -/
def sortedDistinct (xs : List String) : List String :=
  xs.eraseDups.mergeSort fun s t => decide (s ≤ t)

theorem nodup_eraseDups (xs : List String) : xs.eraseDups.Nodup := by
  -- Behind the first text come the others without it, so the induction is on the length.
  induction hn : xs.length using Nat.strongRecOn generalizing xs with
  | ind n ih =>
    subst hn
    cases xs with
    | nil => exact List.nodup_nil
    | cons x xs =>
      have hlt : (xs.filter fun y => !y == x).length < (x :: xs).length :=
        Nat.lt_succ_of_le (List.length_filter_le ..)
      rw [List.eraseDups_cons, List.nodup_cons]
      refine ⟨?_, ih _ hlt _ rfl⟩
      simp

/-- The texts are those of the list. -/
@[simp] theorem mem_sortedDistinct {s : String} {xs : List String} :
    s ∈ sortedDistinct xs ↔ s ∈ xs := by
  rw [sortedDistinct, (List.mergeSort_perm _ _).mem_iff, List.mem_eraseDups]

/-- The texts ascend, so that none is there twice. -/
theorem pairwise_sortedDistinct (xs : List String) : (sortedDistinct xs).Pairwise (· < ·) :=
  pairwise_lt_mergeSort (nodup_eraseDups xs)

end Text

end ReadThrough
