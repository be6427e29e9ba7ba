import Mathlib.Data.Finset.Prod
import ReadThrough.Proofs.Ring.History
import ReadThrough.Proofs.Text.Encoding

/-!
# Every node's share of a ring

A node is meant to stand at as many points as the ring has replicas. Points get lost where a hash
takes two labels to one point, and where the labels are the same to begin with: nothing divides the
number of a point from the name of its node, so point 11 of `x` is point 1 of `1x`. Apart from
that no point gets lost.

## Main definitions

* `Ring.Separates hash replicas nodes`: different labels of the nodes lie at different points
* `Ring.Legible replicas nodes`: no label of the nodes can be read as that of another one
* `Ring.FullShare replicas nodes r`: every node stands at all the points that it is meant to have

## Main results

* `Ring.legible_iff`: different points of different nodes have different labels
* `Ring.legible_of_le_ten`: numbers of one digit leave no doubt
* `Ring.fullShare_iff`: which rings give every node its share
-/

namespace ReadThrough.Ring

variable {replicas i j : Nat} {hash : Hash} {nodes : List String} {lists : List (List String)}
  {r : Ring} {m n : String} {p : UInt32}

/-! ## Labels that can be read in one way only -/

/-- No label of the nodes can be read as that of another one: where the number of a point begins
with another number, the rest of it before the one node's name is never the name of the other. -/
def Legible (replicas : Nat) (nodes : List String) : Prop :=
  ∀ n ∈ nodes, ∀ s, s ++ n ∈ nodes → ∀ i < replicas, ∀ j < replicas,
    toString j = toString i ++ s → s = ""

/-- Two labels agree only if the rest of one number stands before the other one's node. -/
theorem label_eq_label_iff : label m i = label n j ↔
    (∃ s, toString j = toString i ++ s ∧ m = s ++ n) ∨
      ∃ s, toString i = toString j ++ s ∧ n = s ++ m := by
  have hlists : label m i = label n j ↔
      (toString i).toList ++ m.toList = (toString j).toList ++ n.toList := by
    rw [← String.toList_append, ← String.toList_append, String.toList_inj]
    exact ⟨Text.utf8_injective, congrArg Text.utf8⟩
  rw [hlists, List.append_eq_append_iff]
  constructor
  · rintro (⟨s, hj, hm⟩ | ⟨s, hi, hn⟩)
    · exact .inl ⟨.ofList s, String.toList_inj.mp (by simpa using hj),
        String.toList_inj.mp (by simpa using hm)⟩
    · exact .inr ⟨.ofList s, String.toList_inj.mp (by simpa using hi),
        String.toList_inj.mp (by simpa using hn)⟩
  · rintro (⟨s, hj, rfl⟩ | ⟨s, hi, rfl⟩)
    · exact .inl ⟨s.toList, by rw [hj, String.toList_append], String.toList_append⟩
    · exact .inr ⟨s.toList, by rw [hi, String.toList_append], String.toList_append⟩

/-- The points that the nodes are meant to have, each as a node and a number. -/
def slots (replicas : Nat) (nodes : List String) : Finset (String × Nat) :=
  nodes.toFinset ×ˢ Finset.range replicas

/-- Where the point lies that a node has by a number. -/
def place (hash : Hash) (s : String × Nat) : UInt32 := hash (label s.1 s.2)

@[simp] theorem mem_slots : (n, i) ∈ slots replicas nodes ↔ n ∈ nodes ∧ i < replicas := by
  simp [slots]

/-- **Labels can be read in one way only** if different points have different labels. -/
theorem legible_iff : Legible replicas nodes ↔
    Set.InjOn (fun s => label s.1 s.2) (slots replicas nodes : Set (String × Nat)) := by
  constructor
  · rintro h ⟨m, i⟩ hm ⟨n, j⟩ hn heq
    obtain ⟨hm, hi⟩ := mem_slots.mp hm
    obtain ⟨hn, hj⟩ := mem_slots.mp hn
    obtain ⟨s, hs, rfl⟩ | ⟨s, hs, rfl⟩ := label_eq_label_iff.mp heq
    · obtain rfl := h n hn s hm i hi j hj hs
      obtain rfl : j = i := Text.Numeral.toString_inj (hs.trans String.append_empty)
      rw [String.empty_append]
    · obtain rfl := h m hm s hn j hj i hi hs
      obtain rfl : i = j := Text.Numeral.toString_inj (hs.trans String.append_empty)
      rw [String.empty_append]
  · intro h n hn s hs i hi j hj heq
    have hslot := h (mem_slots.mpr ⟨hs, hi⟩) (mem_slots.mpr ⟨hn, hj⟩)
      (label_eq_label_iff.mpr (.inl ⟨s, heq, rfl⟩))
    -- The two points are one, so its number is the whole of itself and nothing more.
    obtain rfl : i = j := congrArg Prod.snd hslot
    have hlength := congrArg String.length heq
    rw [String.length_append] at hlength
    exact String.length_eq_zero_iff.mp (by omega)

/-- Numbers of one digit leave no doubt. -/
theorem legible_of_le_ten (h : replicas ≤ 10) (nodes : List String) : Legible replicas nodes := by
  intro n hn s hs i hi j hj heq
  have hlength : ∀ k < 10, (toString k).length = 1 := by decide
  have hj' := hlength j (by omega)
  rw [heq, String.length_append, hlength i (by omega)] at hj'
  exact String.length_eq_zero_iff.mp (by omega)

/-! ## Shares -/

/-- The hash takes different labels of the nodes to different points. -/
def Separates (hash : Hash) (replicas : Nat) (nodes : List String) : Prop :=
  ∀ m ∈ nodes, ∀ n ∈ nodes, ∀ i < replicas, ∀ j < replicas,
    hash (label m i) = hash (label n j) → label m i = label n j

instance (hash : Hash) (replicas : Nat) (nodes : List String) :
    Decidable (Separates hash replicas nodes) :=
  inferInstanceAs (Decidable (∀ m ∈ nodes, ∀ n ∈ nodes, ∀ i < replicas, ∀ j < replicas,
    hash (label m i) = hash (label n j) → label m i = label n j))

/-- Every node stands at all the points that it is meant to have. -/
structure FullShare (replicas : Nat) (nodes : List String) (r : Ring) : Prop where
  /-- There are as many points as all nodes are meant to have together. -/
  size_eq : r.size = replicas * nodes.toFinset.card
  /-- Each node stands at its own number of them. -/
  stands_at : ∀ n ∈ nodes,
    (r.points.toList.filter fun p => r.owners[p]? = some n).length = replicas

/-- The hash takes the labels apart exactly if it takes apart what they are labels of. -/
theorem Separates.injOn_iff (h : Separates hash replicas nodes) :
    Set.InjOn (place hash) (slots replicas nodes) ↔ Legible replicas nodes := by
  rw [legible_iff]
  constructor
  · intro hinj s hs t ht heq
    exact hinj hs ht (congrArg hash heq)
  · rintro hinj ⟨m, i⟩ hs ⟨n, j⟩ ht heq
    obtain ⟨hm, hi⟩ := mem_slots.mp hs
    obtain ⟨hn, hj⟩ := mem_slots.mp ht
    exact hinj hs ht (h m hm n hn i hi j hj heq)

namespace Account

theorem size_eq_card_image (h : Account replicas hash nodes r) :
    r.size = ((slots replicas nodes).image (place hash)).card := by
  rw [h.size_eq]
  congr 1
  ext p
  simp [place, label, and_assoc]

/-- There are as many points as there are meant to be only if no two of them fall together. -/
theorem size_eq_iff (h : Account replicas hash nodes r) :
    r.size = replicas * nodes.toFinset.card ↔
      Set.InjOn (place hash) (slots replicas nodes) := by
  have hslots : (slots replicas nodes).card = replicas * nodes.toFinset.card := by
    rw [slots, Finset.card_product, Finset.card_range, Nat.mul_comm]
  rw [h.size_eq_card_image, ← hslots, Finset.card_image_iff]

/-- Where no two points fall together, a node stands at the points of its own labels. -/
theorem owners_eq_some_iff (h : Account replicas hash nodes r)
    (hinj : Set.InjOn (place hash) (slots replicas nodes)) (hn : n ∈ nodes) :
    r.owners[p]? = some n ↔ ∃ i < replicas, hash (label n i) = p := by
  rw [h.owners_eq, lastAt_iff]
  constructor
  · intro hp
    exact mem_pointsOf.mp (mem_of_nodeAt hp).2
  · rintro ⟨i, hi, rfl⟩
    -- Some node stands there, and that node has a label for the point too.
    obtain ⟨m, hm⟩ := Option.isSome_iff_exists.mp
      (isSome_nodeAt_iff.mpr ⟨n, hn, mem_pointsOf.mpr ⟨i, hi, rfl⟩⟩)
    obtain ⟨hmem, hlabel⟩ := mem_of_nodeAt hm
    obtain ⟨j, hj, heq⟩ := mem_pointsOf.mp hlabel
    obtain rfl : m = n :=
      congrArg Prod.fst (hinj (mem_slots.mpr ⟨hmem, hj⟩) (mem_slots.mpr ⟨hn, hi⟩) heq)
    exact hm

/-- Where no two points fall together, a node stands at as many points as it is meant to have. -/
theorem stands_at (h : Account replicas hash nodes r)
    (hinj : Set.InjOn (place hash) (slots replicas nodes)) (hn : n ∈ nodes) :
    (r.points.toList.filter fun p => r.owners[p]? = some n).length = replicas := by
  have hnodup : (r.points.toList.filter fun p => r.owners[p]? = some n).Nodup :=
    (h.ascending.imp fun hlt => UInt32.ne_of_lt hlt).filter _
  have hpoints : (r.points.toList.filter fun p => r.owners[p]? = some n).toFinset =
      (Finset.range replicas).image fun i => hash (label n i) := by
    ext p
    simp only [List.mem_toFinset, List.mem_filter, decide_eq_true_eq, Finset.mem_image,
      Finset.mem_range, h.owners_eq_some_iff hinj hn, h.mem_points, and_iff_right_iff_imp]
    intro hp
    exact ⟨n, hn, hp⟩
  have hown : Set.InjOn (fun i => hash (label n i)) (Finset.range replicas) := by
    intro i hi j hj heq
    exact congrArg Prod.snd (hinj (mem_slots.mpr ⟨hn, Finset.mem_range.mp hi⟩)
      (mem_slots.mpr ⟨hn, Finset.mem_range.mp hj⟩) heq)
  rw [← List.toFinset_card_of_nodup hnodup, hpoints, Finset.card_image_of_injOn hown,
    Finset.card_range]

/-- No point gets lost exactly if no two of them fall together. -/
theorem fullShare_iff_injOn (h : Account replicas hash nodes r) : FullShare replicas nodes r ↔
    Set.InjOn (place hash) (slots replicas nodes) :=
  ⟨fun hfull => h.size_eq_iff.mp hfull.size_eq,
    fun hinj => ⟨h.size_eq_iff.mpr hinj, fun _ hn => h.stands_at hinj hn⟩⟩

end Account

/-- **Which rings give every node its share.** If the hash takes different labels to different
points, then it is the rings whose labels can be read in one way only. -/
theorem fullShare_iff (h : Separates hash replicas lists.flatten) :
    FullShare replicas lists.flatten (lists.foldl Ring.add (.empty replicas hash)) ↔
      Legible replicas lists.flatten :=
  (account_of_history replicas hash lists).fullShare_iff_injOn.trans h.injOn_iff

/-- Three nodes with three points each, one of them placed twice. -/
theorem fullShare_digits : Separates Hash.numeral 3 [["6", "4"], ["2", "6"]].flatten ∧
    FullShare 3 [["6", "4"], ["2", "6"]].flatten
      ([["6", "4"], ["2", "6"]].foldl Ring.add (.empty 3 Hash.numeral)) :=
  have hseparates : Separates Hash.numeral 3 [["6", "4"], ["2", "6"]].flatten := by decide +kernel
  ⟨hseparates, (fullShare_iff hseparates).mpr (legible_of_le_ten (by decide) _)⟩

/-- Point 11 of the first node is point 1 of the second one, whatever the hash. -/
theorem not_fullShare : Separates Hash.crc32 12 ["1.2.3.4:80", "11.2.3.4:80"] ∧
    ¬ FullShare 12 ["1.2.3.4:80", "11.2.3.4:80"]
      ((Ring.empty 12 Hash.crc32).add ["1.2.3.4:80", "11.2.3.4:80"]) := by
  have hseparates : Separates Hash.crc32 12 ["1.2.3.4:80", "11.2.3.4:80"] := by decide +kernel
  refine ⟨hseparates, fun hfull => ?_⟩
  have haccount := account_of_history 12 Hash.crc32 [["1.2.3.4:80", "11.2.3.4:80"]]
  have hlegible := hseparates.injOn_iff.mp (haccount.fullShare_iff_injOn.mp hfull)
  have hempty := hlegible "1.2.3.4:80" (by decide) "1" (by decide) 1 (by decide) 11 (by decide)
    (by decide)
  exact absurd hempty (by decide)

end ReadThrough.Ring
