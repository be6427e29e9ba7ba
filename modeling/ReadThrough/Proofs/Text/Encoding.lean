import Mathlib.Data.List.Basic
import ReadThrough.Text.Form

/-!
# Encoded text

What is percent-encoded consists of unreserved characters and percent signs. It has none of the
characters that separate the parts of a path or of a form, so the parts are read as they were
written, whatever they contain.

## Main definitions

* `Text.Form.render ps`: the form-encoded query of name and value pairs

## Main results

* `Text.Percent.utf8_encodeText`: the characters of encoded text are its bytes
* `Text.Percent.not_mem_encodeText`: encoded text has no character that has to be encoded
* `Text.Form.pairs_render`: a form-encoded query is read as it was written
-/

namespace ReadThrough.Text

/-! ## What comes before a separator -/

theorem takeWhile_bne_append {α : Type} [BEq α] [LawfulBEq α] {a : α} {l : List α} (h : a ∉ l)
    (rest : List α) : (l ++ rest).takeWhile (· != a) = l ++ rest.takeWhile (· != a) :=
  List.takeWhile_append_of_pos fun _ hx => bne_iff_ne.mpr (ne_of_mem_of_not_mem hx h)

theorem dropWhile_bne_append {α : Type} [BEq α] [LawfulBEq α] {a : α} {l : List α} (h : a ∉ l)
    (rest : List α) : (l ++ rest).dropWhile (· != a) = rest.dropWhile (· != a) :=
  List.dropWhile_append_of_pos fun _ hx => bne_iff_ne.mpr (ne_of_mem_of_not_mem hx h)

theorem utf8_append (s t : String) : utf8 (s ++ t) = utf8 s ++ utf8 t := by
  simp [utf8]

/-- There are only so many bytes, so what holds of them can be checked for one after the other. -/
theorem forall_byte {p : UInt8 → Prop} (h : ∀ n < 256, p (UInt8.ofNat n)) (b : UInt8) : p b := by
  have hb := h b.toNat b.toNat_lt
  rwa [UInt8.ofNat_toNat] at hb

namespace Percent

/-! ## The characters of encoded text -/

/-- The bytes that encoding writes. -/
def Written (x : UInt8) : Prop := unreserved x ∨ x = 0x25

instance (x : UInt8) : Decidable (Written x) :=
  inferInstanceAs (Decidable (unreserved x = true ∨ x = 0x25))

theorem written_of_mem_encodeByte {b x : UInt8} (h : x ∈ encodeByte b) : Written x := by
  have all : ∀ b, (encodeByte b).all (fun y => decide (Written y)) = true :=
    forall_byte (by decide +kernel)
  exact of_decide_eq_true (List.all_eq_true.mp (all b) x h)

theorem written_of_mem_encode {bs : Bytes} {x : UInt8} (h : x ∈ encode bs) : Written x := by
  obtain ⟨b, -, hx⟩ := List.mem_flatMap.mp h
  exact written_of_mem_encodeByte hx

theorem Written.toNat_lt {x : UInt8} (h : Written x) : x.toNat < 128 := by
  have all : ∀ x, Written x → x.toNat < 128 := forall_byte (by decide +kernel)
  exact all x h

/-- What has to be encoded is not there any more. -/
theorem not_mem_encode {x : UInt8} (hx : ¬ Written x) (bs : Bytes) : x ∉ encode bs :=
  fun h => hx (written_of_mem_encode h)

theorem utf8EncodeChar_ofNat {x : UInt8} (h : x.toNat < 128) :
    String.utf8EncodeChar (Char.ofNat x.toNat) = [x] := by
  have all : ∀ n < 128, String.utf8EncodeChar (Char.ofNat n) = [UInt8.ofNat n] := by
    decide +kernel
  rw [all x.toNat h, UInt8.ofNat_toNat]

/-- The characters of encoded text are its bytes. -/
theorem utf8_encodeText (s : String) : utf8 (encodeText s) = encode (utf8 s) := by
  have chars : ∀ bs : Bytes, (∀ x ∈ bs, x.toNat < 128) →
      (bs.map fun b => Char.ofNat b.toNat).flatMap String.utf8EncodeChar = bs := by
    intro bs hbs
    induction bs with
    | nil => rfl
    | cons b bs ih =>
      rw [List.map_cons, List.flatMap_cons, utf8EncodeChar_ofNat (hbs b List.mem_cons_self),
        ih fun x hx => hbs x (List.mem_cons_of_mem b hx)]
      rfl
  rw [utf8, encodeText, String.toByteArray_ofList, List.utf8Encode, List.toList_data_toByteArray]
  exact chars _ fun x hx => (written_of_mem_encode hx).toNat_lt

/-- Encoded text is read as what it encodes. -/
theorem decode_utf8_encodeText (s : String) : decode (utf8 (encodeText s)) = utf8 s := by
  rw [utf8_encodeText, decode_encode]

/-- Two texts are never encoded as one. -/
theorem encodeText_injective {s t : String} (h : encodeText s = encodeText t) : s = t := by
  have hs := decode_utf8_encodeText s
  rw [h, decode_utf8_encodeText] at hs
  exact utf8_injective hs.symm

/-- Only of no bytes nothing is left. -/
theorem eq_nil_of_decode {bs : Bytes} (h : decode bs = []) : bs = [] := by
  unfold decode at h
  split at h
  · split at h <;> contradiction
  · exact h

theorem toList_encodeText (s : String) :
    (encodeText s).toList = (encode (utf8 s)).map fun b => Char.ofNat b.toNat := by
  rw [encodeText, String.toList_ofList]

/-- Encoded text has no character that has to be encoded. -/
theorem not_mem_encodeText {c : Char} (hc : ¬ Written (UInt8.ofNat c.toNat)) (s : String) :
    c ∉ (encodeText s).toList := by
  rw [toList_encodeText]
  intro h
  obtain ⟨b, hb, rfl⟩ := List.mem_map.mp h
  have hwritten := written_of_mem_encode hb
  have all : ∀ n < 128, (Char.ofNat n).toNat = n := by decide +kernel
  rw [all b.toNat hwritten.toNat_lt, UInt8.ofNat_toNat] at hc
  exact hc hwritten

/-- Encoded text has no slashes. -/
theorem slash_not_mem_encodeText (s : String) : '/' ∉ (encodeText s).toList :=
  not_mem_encodeText (by decide) s

/-- Only the empty text is encoded as such. -/
theorem encodeText_ne_nil {s : String} (h : s ≠ "") : (encodeText s).toList ≠ [] := by
  intro he
  have hs := decode_utf8_encodeText s
  rw [String.toList_eq_nil_iff.mp he] at hs
  exact h (utf8_injective hs.symm)

end Percent

namespace Form

/-! ## Forms -/

/-- The form-encoded piece for a name and a value. -/
def piece (p : String × String) : Bytes :=
  Percent.encode (utf8 p.1) ++ 0x3D :: Percent.encode (utf8 p.2)

/-- The form-encoded query of name and value pairs. -/
def render (ps : List (String × String)) : Bytes := [0x26].intercalate (ps.map piece)

/-- A name or a value is read as it was written. -/
theorem component_encode (s : String) : component (Percent.encode (utf8 s)) = s := by
  -- A plus sign would stand for a space.
  have hplus : (Percent.encode (utf8 s)).map (fun x => if x = 0x2B then 0x20 else x) =
      (Percent.encode (utf8 s)).map id := by
    apply List.map_congr_left
    intro x hx
    apply if_neg
    rintro rfl
    exact Percent.not_mem_encode (by decide) _ hx
  rw [component, hplus, List.map_id, Percent.decode_encode, lossy_utf8]

/-- A piece is read as the name and the value that it was written for. -/
theorem pair_piece (p : String × String) : pair (piece p) = p := by
  have hname : 0x3D ∉ Percent.encode (utf8 p.1) := Percent.not_mem_encode (by decide) _
  rw [pair, piece, takeWhile_bne_append hname, dropWhile_bne_append hname,
    List.takeWhile_cons_of_neg (by decide), List.dropWhile_cons_of_neg (by decide),
    List.append_nil, List.drop_one, List.tail_cons, component_encode, component_encode]

theorem ampersand_not_mem_piece (p : String × String) : 0x26 ∉ piece p := by
  rw [piece, List.mem_append, List.mem_cons, not_or, not_or]
  exact ⟨Percent.not_mem_encode (by decide) _, by decide, Percent.not_mem_encode (by decide) _⟩

theorem piece_ne_nil (p : String × String) : piece p ≠ [] := by
  simp [piece]

/-- **A form-encoded query is read as it was written.** -/
theorem pairs_render (ps : List (String × String)) : pairs (render ps) = ps := by
  by_cases hps : ps = []
  · rw [hps]
    rfl
  · have hsplit : (render ps).splitOn 0x26 = ps.map piece := by
      apply List.splitOn_intercalate 0x26 _ (mt List.map_eq_nil_iff.mp hps)
      intro b hb
      obtain ⟨q, -, rfl⟩ := List.mem_map.mp hb
      exact ampersand_not_mem_piece q
    have hpieces : (ps.map piece).filter (· != []) = ps.map piece := by
      apply List.filter_eq_self.mpr
      intro b hb
      obtain ⟨q, -, rfl⟩ := List.mem_map.mp hb
      exact bne_iff_ne.mpr (piece_ne_nil q)
    have hpair : pair ∘ piece = id := funext pair_piece
    rw [pairs, hsplit, hpieces, List.map_map, hpair, List.map_id]

end Form

end ReadThrough.Text
