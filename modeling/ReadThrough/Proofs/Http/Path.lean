import Mathlib.Data.List.Basic
import ReadThrough.Http.Url.Basic
import ReadThrough.Proofs.Text.Encoding

/-!
# Paths of encoded names

A path made of encoded names has one segment for each of them, with nothing in it that parsing would
escape. So parsing changes it only where a segment is resolved, and that is so for no other names
than `.` and `..`: a dot is not encoded, and no other name is encoded as dots.

## Main definitions

* `Url.nameSegment s`: the segment that a name is encoded as
* `Url.IsDots s`: the segment stands for nothing or for its parent

## Main results

* `Url.isDots_nameSegment`: which names are encoded as dots
* `Url.resolveDots_eq_self`, `Url.length_resolveAfter_lt`: where there are no dots, nothing is
  resolved, and where there are, segments get lost
* `Url.parsePath_names`: what parsing makes of a path of encoded names
-/

namespace ReadThrough.Url

open Text.Percent (digit encodeByte encodeText Written)

variable {s t : List Char} {done rest segs : List (List Char)}

/-! ## Names -/

/-- The segment that a name is encoded as. -/
def nameSegment (s : String) : List Char := (encodeText s).toList

theorem nameSegment_injective {s t : String} (h : nameSegment s = nameSegment t) : s = t :=
  Text.Percent.encodeText_injective (String.toList_injective h)

theorem written_of_mem_nameSegment {s : String} {c : Char} (h : c ∈ nameSegment s) :
    Written (UInt8.ofNat c.toNat) := by
  by_contra hc
  exact Text.Percent.not_mem_encodeText hc s h

theorem isSlash_of_mem_nameSegment {s : String} {c : Char} (h : c ∈ nameSegment s) :
    isSlash c = false := by
  have hc := written_of_mem_nameSegment h
  rw [isSlash, Bool.or_eq_false_iff, beq_eq_false_iff_ne, beq_eq_false_iff_ne]
  constructor
  · rintro rfl
    revert hc
    decide
  · rintro rfl
    revert hc
    decide

/-- What can be checked for one byte after the other: what encoding writes is not escaped in a path;
a byte that is written as itself is no percent sign, and one that is not is never written as the
escape of a dot. -/
theorem written_byte : ∀ b : UInt8, (Written b → pathSet b = false) ∧
    (Text.Percent.unreserved b → Char.ofNat b.toNat ≠ '%') ∧
    (¬ Text.Percent.unreserved b →
      Char.ofNat (digit (b / 16)).toNat ≠ '%' ∧ Char.ofNat (digit (b % 16)).toNat ≠ '%' ∧
        ¬ (Char.ofNat (digit (b / 16)).toNat = '2' ∧
          (Char.ofNat (digit (b % 16)).toNat = 'e' ∨ Char.ofNat (digit (b % 16)).toNat = 'E'))) :=
  Text.forall_byte (by decide +kernel)

theorem pathSet_of_written {b : UInt8} (h : Written b) : pathSet b = false := (written_byte b).1 h

/-- Nothing in an encoded name has to be escaped in a path. -/
theorem escape_nameSegment (s : String) : escape pathSet (nameSegment s) = nameSegment s := by
  rw [nameSegment, escape, String.ofList_toList, Text.Percent.utf8_encodeText,
    Text.Percent.toList_encodeText, List.map_eq_flatMap]
  apply List.flatMap_congr
  intro b hb
  rw [pathSet_of_written (Text.Percent.written_of_mem_encode hb)]
  rfl

/-! ## Names that are dots -/

theorem plainDots_cons_of_ne {c : Char} (h : c ≠ '%') (cs : List Char) :
    plainDots (c :: cs) = c :: plainDots cs := by
  rw [plainDots]
  rintro e rest he -
  exact h he

theorem plainDots_escape {x y : Char} (hx : x ≠ '%') (hy : y ≠ '%')
    (h : ¬ (x = '2' ∧ (y = 'e' ∨ y = 'E'))) (cs : List Char) :
    plainDots ('%' :: x :: y :: cs) = '%' :: x :: y :: plainDots cs := by
  by_cases hx2 : x = '2'
  · subst hx2
    rw [plainDots, if_neg fun he => h ⟨rfl, he⟩, plainDots_cons_of_ne hy]
  · rw [plainDots, plainDots_cons_of_ne hx, plainDots_cons_of_ne hy]
    rintro e rest - he
    exact hx2 (List.cons.inj he).1

/-- A dot is written as itself, so nothing that is written for a byte is an escape of a dot. -/
theorem plainDots_encodeByte_append (b : UInt8) (cs : List Char) :
    plainDots ((encodeByte b).map (fun b => Char.ofNat b.toNat) ++ cs) =
      (encodeByte b).map (fun b => Char.ofNat b.toNat) ++ plainDots cs := by
  -- A byte is written as itself, and then it is no percent sign, or as an escape of something else.
  rw [encodeByte]
  split
  · next h => exact plainDots_cons_of_ne ((written_byte b).2.1 h) cs
  · next h =>
    obtain ⟨hx, hy, hdot⟩ := (written_byte b).2.2 h
    exact plainDots_escape hx hy hdot cs

theorem plainDots_nameSegment (s : String) : plainDots (nameSegment s) = nameSegment s := by
  rw [nameSegment, Text.Percent.toList_encodeText]
  induction Text.utf8 s with
  | nil => rfl
  | cons b bs ih =>
    have hcons : Text.Percent.encode (b :: bs) = encodeByte b ++ Text.Percent.encode bs := rfl
    rw [hcons, List.map_append, plainDots_encodeByte_append, ih]

theorem nameSegment_dots : nameSegment "." = ['.'] ∧ nameSegment ".." = ['.', '.'] := by
  decide

theorem isSelf_nameSegment {s : String} : isSelf (nameSegment s) = true ↔ s = "." := by
  rw [isSelf, plainDots_nameSegment, beq_iff_eq, ← nameSegment_dots.1]
  constructor
  · exact nameSegment_injective
  · rintro rfl
    rfl

theorem isParent_nameSegment {s : String} : isParent (nameSegment s) = true ↔ s = ".." := by
  rw [isParent, plainDots_nameSegment, beq_iff_eq, ← nameSegment_dots.2]
  constructor
  · exact nameSegment_injective
  · rintro rfl
    rfl

/-- The segment is resolved: it stands for nothing or for its parent. -/
def IsDots (s : List Char) : Prop := isSelf s = true ∨ isParent s = true

/-- No names but `.` and `..` are encoded as dots. -/
theorem isDots_nameSegment {s : String} : IsDots (nameSegment s) ↔ s = "." ∨ s = ".." := by
  rw [IsDots, isSelf_nameSegment, isParent_nameSegment]

/-- No name is encoded as the letter of a drive. -/
theorem isDrive_nameSegment (s : String) : isDrive (nameSegment s) = false := by
  have hcolon : ':' ∉ nameSegment s := Text.Percent.not_mem_encodeText (by decide) s
  have hbar : '|' ∉ nameSegment s := Text.Percent.not_mem_encodeText (by decide) s
  generalize nameSegment s = cs at hcolon hbar
  -- The letter of a drive has one of the two behind it.
  match cs with
  | [] => rfl
  | [_] => rfl
  | letter :: mark :: rest =>
    have hmark : (mark == ':' || mark == '|') = false := by
      rw [Bool.or_eq_false_iff, beq_eq_false_iff_ne, beq_eq_false_iff_ne]
      constructor
      · rintro rfl
        simp at hcolon
      · rintro rfl
        simp at hbar
    rw [isDrive, hmark, Bool.and_false, Bool.false_and]

/-! ## Resolving -/

theorem resolveAfter_cons_of_not (h : ¬ IsDots s) (done : List (List Char)) (t : List Char)
    (rest : List (List Char)) :
    resolveAfter done (s :: t :: rest) = resolveAfter (s :: done) (t :: rest) := by
  rw [IsDots, not_or] at h
  rw [resolveAfter, if_neg h.2, if_neg h.1]
  exact List.cons_ne_nil t rest

theorem resolveAfter_singleton_of_not (h : ¬ IsDots s) (done : List (List Char)) :
    resolveAfter done [s] = s :: done := by
  rw [IsDots, not_or] at h
  rw [resolveAfter, if_neg h.2, if_neg h.1]

/-- Where there are no dots, nothing is resolved. -/
theorem resolveDots_eq_self (h : ∀ s ∈ segs, ¬ IsDots s) : resolveDots segs = segs := by
  -- What is done so far lies in reverse, and the induction is for whatever that is.
  have after : ∀ done, resolveAfter done segs = segs.reverse ++ done := by
    induction segs with
    | nil => exact fun _ => rfl
    | cons s rest ih =>
      rw [List.forall_mem_cons] at h
      intro done
      cases rest with
      | nil => exact resolveAfter_singleton_of_not h.1 done
      | cons t rest =>
        rw [resolveAfter_cons_of_not h.1, ih h.2, List.append_cons, ← List.reverse_cons]
  rw [resolveDots, after, List.append_nil, List.reverse_reverse]

theorem parent_sublist (done : List (List Char)) : (parent done).Sublist done := by
  cases done with
  | nil => exact List.Sublist.refl _
  | cons s rest =>
    rw [parent]
    split
    · exact List.Sublist.refl _
    · exact List.sublist_cons_self s rest

/-- Resolving makes up no segments but the empty one. -/
theorem resolveAfter_subset (done segs : List (List Char)) :
    resolveAfter done segs ⊆ [] :: (done ++ segs) := by
  fun_induction resolveAfter done segs with
  | case2 done | case5 done =>
    have hparent := (parent_sublist done).subset
    grind
  | _ => grind

theorem length_resolveAfter_le (done segs : List (List Char)) :
    (resolveAfter done segs).length ≤ done.length + segs.length := by
  fun_induction resolveAfter done segs with
  | case2 done | case5 done =>
    have hparent := (parent_sublist done).length_le
    grind
  | _ => grind

/-- Dots that segments follow get lost. -/
theorem length_resolveAfter_lt (h : IsDots s) :
    (resolveAfter done (s :: t :: rest)).length < done.length + (s :: t :: rest).length := by
  have hparent := (parent_sublist done).length_le
  have hdone := length_resolveAfter_le done (t :: rest)
  have hless := length_resolveAfter_le (parent done) (t :: rest)
  rw [resolveAfter]
  · split
    · grind
    · split
      · grind
      · next hself hother => exact absurd h (not_or.mpr ⟨hother, hself⟩)
  · exact List.cons_ne_nil t rest

/-! ## Paths -/

theorem segments_renderSegments {isSlash : Char → Bool} (hslash : isSlash '/' = true)
    (h : ∀ t ∈ s :: rest, ∀ c ∈ t, isSlash c = false) :
    segments isSlash (renderSegments (s :: rest)) = s :: rest := by
  -- The slash before the first segment is dropped; those before the others tell them apart.
  have split : ∀ s, (∀ t ∈ s :: rest, ∀ c ∈ t, isSlash c = false) →
      (s ++ renderSegments rest).splitOnP isSlash = s :: rest := by
    clear h
    induction rest with
    | nil =>
      intro s h
      rw [renderSegments, List.flatMap_nil, List.append_nil]
      exact List.splitOnP_eq_singleton (h s List.mem_cons_self)
    | cons t rest ih =>
      intro s h
      rw [List.forall_mem_cons] at h
      have hcons : renderSegments (t :: rest) = '/' :: (t ++ renderSegments rest) := rfl
      rw [hcons, List.splitOnP_append_cons_of_forall_mem h.1 _ hslash, ih t h.2]
  show (if isSlash '/' = true then s ++ renderSegments rest else _).splitOnP isSlash = s :: rest
  rw [if_pos hslash, split s h]

/-- There is a slash for each segment. -/
theorem count_renderSegments (h : ∀ s ∈ segs, '/' ∉ s) :
    (renderSegments segs).count '/' = segs.length := by
  induction segs with
  | nil => rfl
  | cons s rest ih =>
    rw [List.forall_mem_cons] at h
    have hcons : renderSegments (s :: rest) = '/' :: (s ++ renderSegments rest) := rfl
    rw [hcons, List.count_cons_self, List.count_append, ih h.2, List.count_eq_zero.mpr h.1,
      List.length_cons, Nat.zero_add]

/-- What is left of encoded names are encoded names. -/
theorem exists_nameSegment_of_mem {names : List String}
    (h : s ∈ resolveDots (names.map nameSegment)) : ∃ name, s = nameSegment name := by
  rw [resolveDots, List.mem_reverse] at h
  rcases List.mem_cons.mp (resolveAfter_subset _ _ h) with rfl | h
  · exact ⟨"", rfl⟩
  · obtain ⟨name, -, rfl⟩ := List.mem_map.mp h
    exact ⟨name, rfl⟩

/-- **What parsing makes of a path of encoded names**: dots are resolved, and nothing is escaped. -/
theorem parsePath_names {names : List String} (hne : names ≠ []) :
    parsePath isSlash (renderSegments (names.map nameSegment)) =
      String.ofList (renderSegments (resolveDots (names.map nameSegment))) := by
  have hsegments : segments isSlash (renderSegments (names.map nameSegment)) =
      names.map nameSegment := by
    have hplain : ∀ t ∈ names.map nameSegment, ∀ c ∈ t, isSlash c = false := by
      intro t ht c hc
      obtain ⟨name, -, rfl⟩ := List.mem_map.mp ht
      exact isSlash_of_mem_nameSegment hc
    obtain ⟨name, more, rfl⟩ := List.exists_cons_of_ne_nil hne
    rw [List.map_cons] at hplain ⊢
    exact segments_renderSegments rfl hplain
  have hescape : (resolveDots (names.map nameSegment)).map (escape pathSet) =
      resolveDots (names.map nameSegment) := by
    rw [List.map_congr_left fun s hs => ?_, List.map_id']
    obtain ⟨name, rfl⟩ := exists_nameSegment_of_mem hs
    exact escape_nameSegment name
  rw [parsePath, hsegments, hescape]

end ReadThrough.Url
