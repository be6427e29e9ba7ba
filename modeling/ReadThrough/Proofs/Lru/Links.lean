import Mathlib.Data.List.Nodup
import ReadThrough.Lru.Slots

/-!
# Linked slots

The slots in use form one row, linked both ways. Taking a slot out of the row relinks its neighbours
and nothing else; putting one in front relinks the former front.

## Main definitions

* `Lru.Linked slots newer chain older`: a row of slots between two neighbours
* `Lru.Chained c chain`: the row that begins at the newest and ends at the oldest entry

## Main results

* `Lru.Chained.unlink`, `Lru.Chained.pushNewest`: a slot leaves the row, or comes in front
* `Lru.Chained.touch`: a slot moves to the front
-/

namespace ReadThrough.Lru

/-! ## Rows of slots -/

/-- The first slot of a row, or what comes after the row if it is empty. -/
def first : List (Nat × Entry) → Option Nat → Option Nat
  | [], older => older
  | (i, _) :: _, _ => some i

/-- The last slot of a row, or what comes before the row if it is empty. -/
def last : Option Nat → List (Nat × Entry) → Option Nat
  | newer, [] => newer
  | _, (i, _) :: chain => last (some i) chain

/-- The slots of a row hold its entries and are linked in its order, between two neighbours. -/
def Linked (slots : Array Slot) : Option Nat → List (Nat × Entry) → Option Nat → Prop
  | _, [], _ => True
  | newer, (i, e) :: chain, older =>
    slots[i]? = some ⟨e, newer, first chain older⟩ ∧ Linked slots (some i) chain older

section Rows

variable {slots slots' : Array Slot} {newer newer' older older' : Option Nat} {i j : Nat}
  {e e' : Entry} {l r chain : List (Nat × Entry)}

@[simp] theorem first_append : first (l ++ r) older = first l (first r older) := by
  cases l <;> rfl

@[simp] theorem last_append : last newer (l ++ r) = last (last newer l) r := by
  induction l generalizing newer with
  | nil => rfl
  | cons x l ih => exact ih

theorem linked_append : Linked slots newer (l ++ r) older ↔
    Linked slots newer l (first r older) ∧ Linked slots (last newer l) r older := by
  induction l generalizing newer with
  | nil => simp [Linked, last]
  | cons x l ih => simp [Linked, last, ih, and_assoc]

theorem last_cases (newer : Option Nat) (l : List (Nat × Entry)) : l = [] ∧ last newer l = newer ∨
    ∃ i ∈ l.map Prod.fst, last newer l = some i := by
  induction l generalizing newer with
  | nil => exact .inl ⟨rfl, rfl⟩
  | cons x l ih =>
    refine .inr ?_
    rcases ih (some x.1) with ⟨rfl, h⟩ | ⟨i, hi, h⟩
    · exact ⟨x.1, by simp, h⟩
    · exact ⟨i, List.mem_cons_of_mem _ hi, h⟩

theorem first_cases (l : List (Nat × Entry)) (older : Option Nat) : l = [] ∧ first l older = older ∨
    ∃ i ∈ l.map Prod.fst, first l older = some i := by
  cases l with
  | nil => exact .inl ⟨rfl, rfl⟩
  | cons x l => exact .inr ⟨x.1, by simp, rfl⟩

namespace Linked

/-- A row is linked as its own slots say. -/
theorem congr (h : Linked slots newer chain older)
    (hs : ∀ i ∈ chain.map Prod.fst, slots'[i]? = slots[i]?) :
    Linked slots' newer chain older := by
  induction chain generalizing newer with
  | nil => trivial
  | cons x chain ih =>
    refine ⟨?_, ih h.2 fun i hi => hs i (List.mem_cons_of_mem _ hi)⟩
    rw [hs x.1 (by simp)]
    exact h.1

theorem modify_of_not_mem {f : Slot → Slot} (h : Linked slots newer chain older)
    (hi : i ∉ chain.map Prod.fst) : Linked (slots.modify i f) newer chain older := by
  refine h.congr fun j hj => ?_
  rw [Array.getElem?_modify, if_neg]
  rintro rfl
  exact hi hj

/-- The last slot gets another neighbour. -/
theorem modify_last (h : Linked slots newer chain older) (hn : (chain.map Prod.fst).Nodup)
    (hi : i ∈ chain.map Prod.fst) (hl : last newer chain = some i) :
    Linked (slots.modify i ({ · with older := older' })) newer chain older' := by
  induction chain generalizing newer with
  | nil => cases hi
  | cons x chain ih =>
    obtain ⟨j, e⟩ := x
    rw [List.map_cons, List.nodup_cons] at hn
    rcases last_cases (some j) chain with ⟨rfl, -⟩ | ⟨k, hk, hlk⟩
    · obtain rfl := Option.some.inj hl
      refine ⟨?_, trivial⟩
      rw [Array.getElem?_modify, if_pos rfl, h.1]
      rfl
    · -- The last slot is further on, so this one keeps its links.
      obtain rfl := Option.some.inj (hlk.symm.trans hl)
      have hne : k ≠ j := fun hkj => hn.1 (hkj ▸ hk)
      refine ⟨?_, ih h.2 hn.2 hk hl⟩
      have hfirst : first chain older' = first chain older := by
        cases chain with
        | nil => cases hk
        | cons y chain => rfl
      rw [Array.getElem?_modify, if_neg hne, h.1, hfirst]

/-- The first slot gets another neighbour. -/
theorem modify_first (h : Linked slots newer chain older) (hn : (chain.map Prod.fst).Nodup)
    (hi : i ∈ chain.map Prod.fst) (hf : first chain older = some i) :
    Linked (slots.modify i ({ · with newer := newer' })) newer' chain older := by
  cases chain with
  | nil => cases hi
  | cons x chain =>
    obtain ⟨j, e⟩ := x
    obtain rfl := Option.some.inj hf
    rw [List.map_cons, List.nodup_cons] at hn
    refine ⟨?_, h.2.modify_of_not_mem hn.1⟩
    rw [Array.getElem?_modify, if_pos rfl, h.1]
    rfl

/-- A slot gets another entry. -/
theorem modify_entry (h : Linked slots newer (l ++ (i, e) :: r) older)
    (hn : ((l ++ (i, e) :: r).map Prod.fst).Nodup) :
    Linked (slots.modify i ({ · with entry := e' })) newer (l ++ (i, e') :: r) older := by
  rw [linked_append] at h ⊢
  rw [List.map_append, List.map_cons, List.nodup_append', List.nodup_cons] at hn
  obtain ⟨-, ⟨hr, -⟩, hd⟩ := hn
  obtain ⟨hl, hs, hrest⟩ := h
  -- The slot is in neither part, so both stay as they are.
  refine ⟨hl.modify_of_not_mem ?_, ?_, hrest.modify_of_not_mem hr⟩
  · intro hi
    exact hd hi (by simp)
  · rw [Array.getElem?_modify, if_pos rfl, hs]
    rfl

end Linked

end Rows

/-! ## The row of a cache -/

section Frames

variable {c : Lru} {i : Nat} {o : Option Nat} {x : Option Nat}

@[simp] theorem setOlder_budget : (c.setOlder o x).budget = c.budget := by cases o <;> rfl
@[simp] theorem setOlder_used : (c.setOlder o x).used = c.used := by cases o <;> rfl
@[simp] theorem setOlder_free : (c.setOlder o x).free = c.free := by cases o <;> rfl
@[simp] theorem setOlder_index : (c.setOlder o x).index = c.index := by cases o <;> rfl
@[simp] theorem setOlder_oldest : (c.setOlder o x).oldest = c.oldest := by cases o <;> rfl

@[simp] theorem setOlder_slots_size : (c.setOlder o x).slots.size = c.slots.size := by
  cases o <;> simp [setOlder]

theorem slots_setOlder_some :
    (c.setOlder (some i) x).slots = c.slots.modify i ({ · with older := x }) := rfl

theorem getElem?_setOlder (h : o ≠ some i) : (c.setOlder o x).slots[i]? = c.slots[i]? := by
  cases o with
  | none => rfl
  | some j => rw [slots_setOlder_some, Array.getElem?_modify, if_neg fun hj => h (congrArg some hj)]

@[simp] theorem setNewer_budget : (c.setNewer o x).budget = c.budget := by cases o <;> rfl
@[simp] theorem setNewer_used : (c.setNewer o x).used = c.used := by cases o <;> rfl
@[simp] theorem setNewer_free : (c.setNewer o x).free = c.free := by cases o <;> rfl
@[simp] theorem setNewer_index : (c.setNewer o x).index = c.index := by cases o <;> rfl
@[simp] theorem setNewer_newest : (c.setNewer o x).newest = c.newest := by cases o <;> rfl

@[simp] theorem setNewer_slots_size : (c.setNewer o x).slots.size = c.slots.size := by
  cases o <;> simp [setNewer]

theorem slots_setNewer_some :
    (c.setNewer (some i) x).slots = c.slots.modify i ({ · with newer := x }) := rfl

theorem getElem?_setNewer (h : o ≠ some i) : (c.setNewer o x).slots[i]? = c.slots[i]? := by
  cases o with
  | none => rfl
  | some j => rw [slots_setNewer_some, Array.getElem?_modify, if_neg fun hj => h (congrArg some hj)]

/-- Two caches that differ in the links between slots at most. -/
structure Alike (c c' : Lru) : Prop where
  budget : c'.budget = c.budget
  used : c'.used = c.used
  free : c'.free = c.free
  index : c'.index = c.index
  size : c'.slots.size = c.slots.size

theorem alike_unlink : Alike c (c.unlink i) := by
  unfold unlink
  split
  · exact ⟨by simp, by simp, by simp, by simp, by simp⟩
  · exact ⟨rfl, rfl, rfl, rfl, rfl⟩

theorem alike_pushNewest : Alike c (c.pushNewest i) :=
  ⟨by simp [pushNewest], by simp [pushNewest], by simp [pushNewest], by simp [pushNewest],
    by simp [pushNewest]⟩

theorem Alike.trans {c c' c'' : Lru} (h : Alike c c') (h' : Alike c' c'') : Alike c c'' :=
  ⟨h'.budget.trans h.budget, h'.used.trans h.used, h'.free.trans h.free, h'.index.trans h.index,
    h'.size.trans h.size⟩

theorem alike_touch : Alike c (c.touch i) := by
  unfold touch
  split
  · exact ⟨rfl, rfl, rfl, rfl, rfl⟩
  · exact alike_unlink.trans alike_pushNewest

end Frames

/-- The slots in use form one row, from that of the newest entry to that of the oldest. -/
structure Chained (c : Lru) (chain : List (Nat × Entry)) : Prop where
  linked : Linked c.slots none chain none
  nodup : (chain.map Prod.fst).Nodup
  newest : c.newest = first chain none
  oldest : c.oldest = last none chain

namespace Chained

variable {c : Lru} {i : Nat} {e : Entry} {l r chain : List (Nat × Entry)}

theorem slot (h : Chained c (l ++ (i, e) :: r)) :
    c.slots[i]? = some ⟨e, last none l, first r none⟩ :=
  (linked_append.mp h.linked).2.1

theorem oldest_concat (h : Chained c (l ++ [(i, e)])) : c.oldest = some i := by
  rw [h.oldest, last_append]
  rfl

/-- Only the links of the slots in a row matter. -/
theorem congr {c' : Lru} (h : Chained c chain)
    (hs : ∀ i ∈ chain.map Prod.fst, c'.slots[i]? = c.slots[i]?) (hn : c'.newest = c.newest)
    (ho : c'.oldest = c.oldest) : Chained c' chain :=
  ⟨h.linked.congr hs, h.nodup, hn.trans h.newest, ho.trans h.oldest⟩

/-- **A slot leaves the row.** -/
theorem unlink (h : Chained c (l ++ (i, e) :: r)) : Chained (c.unlink i) (l ++ r) := by
  obtain ⟨hlink, hn, hnew, hold⟩ := h
  have hslot := (linked_append.mp hlink).2.1
  obtain ⟨hl, -, hr⟩ := linked_append.mp hlink
  rw [List.map_append, List.map_cons, List.nodup_append', List.nodup_cons] at hn
  obtain ⟨hnl, ⟨hir, hnr⟩, hd⟩ := hn
  have hdis : List.Disjoint (l.map Prod.fst) (r.map Prod.fst) := fun x hx hx' =>
    hd hx (List.mem_cons_of_mem _ hx')
  -- The part before the slot is linked to the part after it, and then the other way round.
  have hl' : Linked (c.setOlder (last none l) (first r none)).slots none l (first r none) := by
    rcases last_cases none l with ⟨rfl, -⟩ | ⟨j, hj, he⟩
    · trivial
    · rw [he, slots_setOlder_some]
      exact hl.modify_last hnl hj he
  have hr' : Linked (c.setOlder (last none l) (first r none)).slots (some i) r none := by
    rcases last_cases none l with ⟨rfl, -⟩ | ⟨j, hj, he⟩
    · exact hr
    · rw [he, slots_setOlder_some]
      exact hr.modify_of_not_mem fun hj' => hdis hj hj'
  have hlinked : Linked (c.unlink i).slots none (l ++ r) none := by
    rw [linked_append, Lru.unlink, hslot]
    rcases first_cases r none with ⟨rfl, -⟩ | ⟨j, hj, he⟩
    · exact ⟨hl', trivial⟩
    · simp only [he, slots_setNewer_some] at hl' hr' ⊢
      exact ⟨hl'.modify_of_not_mem fun hj' => hdis hj' hj, hr'.modify_first hnr hj he⟩
  refine ⟨hlinked, ?_, ?_, ?_⟩
  · rw [List.map_append, List.nodup_append']
    exact ⟨hnl, hnr, hdis⟩
  · rw [Lru.unlink, hslot]
    cases l with
    | nil => simp [last, setOlder]
    | cons x l =>
      obtain ⟨j, e'⟩ := x
      rcases last_cases none ((j, e') :: l) with ⟨h, -⟩ | ⟨k, -, he⟩
      · cases h
      · rw [setNewer_newest, he]
        exact hnew
  · rw [Lru.unlink, hslot]
    cases r with
    | nil => simp [first, setNewer]
    | cons x r =>
      rw [last_append] at hold ⊢
      exact (setOlder_oldest (o := last none l)).trans hold

/-- The slot itself stays as it is. -/
theorem slot_unlink (h : Chained c (l ++ (i, e) :: r)) :
    (c.unlink i).slots[i]? = some ⟨e, last none l, first r none⟩ := by
  have hn := h.nodup
  rw [List.map_append, List.map_cons, List.nodup_append', List.nodup_cons] at hn
  obtain ⟨-, ⟨hir, -⟩, hd⟩ := hn
  -- Neither neighbour that is relinked is the slot itself.
  have hfirst : first r none ≠ some i := by
    rcases first_cases r none with ⟨-, he⟩ | ⟨j, hj, he⟩
    · simp [he]
    · rw [he]
      rintro ⟨⟩
      exact hir hj
  have hlast : last none l ≠ some i := by
    rcases last_cases none l with ⟨-, he⟩ | ⟨j, hj, he⟩
    · simp [he]
    · rw [he]
      rintro ⟨⟩
      exact hd hj (by simp)
  rw [Lru.unlink, h.slot]
  exact (getElem?_setNewer hfirst).trans ((getElem?_setOlder hlast).trans h.slot)

/-- **A slot comes in front of the row.** -/
theorem pushNewest {s : Slot} (h : Chained c chain) (hi : i ∉ chain.map Prod.fst)
    (hs : c.slots[i]? = some s) : Chained (c.pushNewest i) ((i, s.entry) :: chain) := by
  obtain ⟨hlink, hn, hnew, hold⟩ := h
  -- The slot itself is linked first, and then the former front is linked to it.
  have hfront : (c.slots.modify i ({ · with newer := none, older := first chain none }))[i]? =
      some ⟨s.entry, none, first chain none⟩ := by
    rw [Array.getElem?_modify, if_pos rfl, hs]
    rfl
  have hrest : Linked (c.slots.modify i ({ · with newer := none, older := first chain none }))
      none chain none := hlink.modify_of_not_mem hi
  refine ⟨?_, List.nodup_cons.mpr ⟨hi, hn⟩, rfl, ?_⟩
  · rw [Lru.pushNewest, hnew]
    rcases first_cases chain none with ⟨rfl, -⟩ | ⟨j, hj, he⟩
    · exact ⟨hfront, trivial⟩
    · have hne : j ≠ i := fun hji => hi (hji ▸ hj)
      rw [he] at hfront hrest
      refine ⟨?_, ?_⟩
      · rw [he]
        change (Array.modify _ j _)[i]? = _
        rw [Array.getElem?_modify, if_neg hne]
        exact hfront
      · rw [he]
        exact hrest.modify_first hn hj he
  · rw [Lru.pushNewest, hnew]
    cases chain with
    | nil => rfl
    | cons x chain => simpa [first, setNewer, last] using hold

/-- **A slot moves to the front.** -/
theorem touch (h : Chained c (l ++ (i, e) :: r)) : Chained (c.touch i) ((i, e) :: (l ++ r)) := by
  unfold Lru.touch
  split
  · rename_i hi
    -- A slot that is in front already has no others before it.
    cases l with
    | nil => exact h
    | cons x l =>
      have hn := h.nodup
      rw [List.cons_append, List.map_cons, List.nodup_cons] at hn
      have hx : x.1 = i := Option.some.inj (h.newest.symm.trans hi)
      exact absurd (by simp [hx]) hn.1
  · have hn := h.nodup
    rw [List.map_append, List.map_cons, List.nodup_middle, ← List.map_append,
      List.nodup_cons] at hn
    exact h.unlink.pushNewest hn.1 h.slot_unlink

end Chained

end ReadThrough.Lru
