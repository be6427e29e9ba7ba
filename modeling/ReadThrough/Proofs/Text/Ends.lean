import Mathlib.Data.List.DropRight
import ReadThrough.Text.Blank

/-!
# The ends of a text

What is removed from the ends of a text is removed only where it stands there. A text that neither
begins nor ends with white space stays as it is when white space is removed, and no other text does.

## Main results

* `Text.dropWhile_eq_self`, `Text.rdropWhile_eq_self`: nothing to remove from the front or the back
* `Text.head?_trimChars`: a text without white space around it does not begin with any
* `Text.trimChars_eq_self`: a text without white space around it
-/

namespace ReadThrough.Text

variable {p : Char → Bool} {cs : List Char} {c : Char}

theorem dropWhile_eq_self (h : ∀ c ∈ cs.head?, p c = false) : cs.dropWhile p = cs := by
  cases cs with
  | nil => rfl
  | cons c cs => simp [h c rfl]

theorem rdropWhile_eq_self (h : ∀ c ∈ cs.getLast?, p c = false) : cs.rdropWhile p = cs := by
  rw [List.rdropWhile_eq_self_iff]
  intro hne hlast
  rw [h _ (List.getLast?_eq_some_getLast hne)] at hlast
  cases hlast

/-- What is removed from the back does not change the front, -/
theorem head?_of_rdropWhile (h : (cs.rdropWhile p).head? = some c) : cs.head? = some c := by
  obtain ⟨back, hback⟩ := List.rdropWhile_prefix p cs
  rw [← hback, List.head?_append, h]
  rfl

/-- unless it reaches as far as that. -/
theorem head?_rdropWhile (h : cs.head? = some c) (hc : p c = false) :
    (cs.rdropWhile p).head? = some c := by
  cases hdrop : cs.rdropWhile p with
  | nil =>
    have hall := List.rdropWhile_eq_nil_iff.mp hdrop c (List.mem_of_head? h)
    rw [hc] at hall
    cases hall
  | cons d ds =>
    have hd : cs.head? = some d := head?_of_rdropWhile (by rw [hdrop]; rfl)
    rw [← h, hd]
    rfl

theorem trimChars_eq_rdropWhile : trimChars cs = (cs.dropWhile isBlank).rdropWhile isBlank := rfl

theorem trimChars_sublist : (trimChars cs).Sublist cs :=
  (List.rdropWhile_prefix _ _).sublist.trans (List.dropWhile_suffix _).sublist

/-- Where white space was removed there is none. -/
theorem head?_trimChars : ∀ c ∈ (trimChars cs).head?, isBlank c = false := by
  intro c hc
  have hblank := List.head?_dropWhile_not isBlank cs
  rwa [head?_of_rdropWhile hc] at hblank

/-- A text without white space at its ends has none to lose. -/
theorem trimChars_eq_self (hhead : ∀ c ∈ cs.head?, isBlank c = false)
    (hlast : ∀ c ∈ cs.getLast?, isBlank c = false) : trimChars cs = cs := by
  rw [trimChars_eq_rdropWhile, dropWhile_eq_self hhead, rdropWhile_eq_self hlast]

end ReadThrough.Text
