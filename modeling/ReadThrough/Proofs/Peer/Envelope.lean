import Mathlib.Algebra.GroupWithZero.Nat
import ReadThrough.Peer.Envelope

/-!
# Envelopes that are written and read

Eight bytes hold the length of every value shorter than `2 ^ 64` bytes, so the reader takes as many
bytes as the writer put in, whatever follows. What the reader accepts begins with the envelope of
what it reads, because eight bytes are the only way to write their number. So an envelope that is
cut short anywhere is a fault, and so is a length that promises more bytes than there are.

## Main definitions

* `Envelope.Rejects b`: bytes that are no envelope

## Main results

* `Envelope.ofLittleEndian_littleEndian`, `Envelope.littleEndian_ofLittleEndian`: numbers and bytes,
  there and back
* `Envelope.decode_encode_append`: an envelope is read as it was written
* `Envelope.encode_prefix_of_decode`: what is read was written
* `Envelope.codec_exact`: the reader accepts envelopes and nothing else
-/

namespace ReadThrough.Envelope

theorem length_littleEndian (n x : Nat) : (littleEndian n x).length = n := by
  induction n generalizing x with
  | zero => rfl
  | succ n ih => rw [littleEndian, List.length_cons, ih]

/-- A number is read as it was written, if there is room for it. -/
theorem ofLittleEndian_littleEndian {n x : Nat} (h : x < 256 ^ n) :
    ofLittleEndian (littleEndian n x) = x := by
  induction n generalizing x with
  | zero =>
    rw [Nat.pow_zero] at h
    rw [littleEndian, ofLittleEndian]
    omega
  | succ n ih =>
    have hrest : x / 256 < 256 ^ n := by
      apply Nat.div_lt_of_lt_mul
      rwa [Nat.pow_succ, Nat.mul_comm] at h
    have hfirst : (UInt8.ofNat (x % 256)).toNat = x % 256 := by
      rw [UInt8.toNat_ofNat']
      exact Nat.mod_mod _ _
    rw [littleEndian, ofLittleEndian, ih hrest, hfirst]
    exact Nat.mod_add_div x 256

theorem length_encode (v : Bytes) : (encode v).length = 8 + v.length := by
  rw [encode, List.length_append, length_littleEndian]

/-- **An envelope is read as it was written**, whatever follows it. -/
theorem decode_encode_append {v : Bytes} (h : v.length < 2 ^ 64) (rest : Bytes) :
    decode (encode v ++ rest) = .ok v := by
  have hlen := length_littleEndian 8 v.length
  have hsize : ofLittleEndian ((encode v ++ rest).take 8) = v.length := by
    rw [encode, List.append_assoc, List.take_left' hlen]
    exact ofLittleEndian_littleEndian h
  have hrest : (encode v ++ rest).drop 8 = v ++ rest := by
    rw [encode, List.append_assoc, List.drop_left' hlen]
  unfold decode
  rw [hsize, hrest, if_pos, List.take_left' rfl]
  rw [List.length_append, length_encode, List.length_append]
  omega

theorem decode_encode {v : Bytes} (h : v.length < 2 ^ 64) : decode (encode v) = .ok v := by
  have happend := decode_encode_append h []
  rwa [List.append_nil] at happend

/-! ## What the reader accepts -/

/-- Bytes are the only way to write the number they stand for in as many bytes. -/
theorem littleEndian_ofLittleEndian (bs : Bytes) :
    littleEndian bs.length (ofLittleEndian bs) = bs := by
  induction bs with
  | nil => rfl
  | cons b bs ih =>
    have hb : b.toNat < 256 := b.toNat_lt
    have hfirst : (b.toNat + 256 * ofLittleEndian bs) % 256 = b.toNat := by omega
    have hrest : (b.toNat + 256 * ofLittleEndian bs) / 256 = ofLittleEndian bs := by omega
    rw [List.length_cons, ofLittleEndian, littleEndian, hfirst, hrest, ih, UInt8.ofNat_toNat]

theorem ofLittleEndian_lt (bs : Bytes) : ofLittleEndian bs < 256 ^ bs.length := by
  induction bs with
  | nil => decide
  | cons b bs ih =>
    have hb : b.toNat < 256 := b.toNat_lt
    rw [ofLittleEndian, List.length_cons, Nat.pow_succ]
    omega

/-- The bytes are no envelope, and the reader says so. -/
def Rejects (b : Bytes) : Prop :=
  decode b = .error (.protocol "decoding peer response: io error: unexpected end of file")

theorem decode_cases (b : Bytes) : (∃ v, decode b = .ok v) ∨ Rejects b := by
  unfold Rejects decode
  dsimp only
  split
  · exact .inl ⟨_, rfl⟩
  · exact .inr rfl

/-- **What is read was written**: the bytes begin with the envelope of the value, which is not too
long for one. -/
theorem encode_prefix_of_decode {b v : Bytes} (h : decode b = .ok v) :
    v.length < 2 ^ 64 ∧ encode v <+: b := by
  unfold decode at h
  dsimp only at h
  split at h
  · rename_i hfits
    obtain ⟨hlen, hsize⟩ := hfits
    obtain rfl := Except.ok.inj h
    have hhead : (b.take 8).length = 8 := List.length_take_of_le hlen
    -- As many bytes are taken as the first eight say.
    have hv : ((b.drop 8).take (ofLittleEndian (b.take 8))).length =
        ofLittleEndian (b.take 8) := List.length_take_of_le hsize
    constructor
    · rw [hv]
      apply Nat.lt_of_lt_of_eq (ofLittleEndian_lt (b.take 8))
      rw [hhead]
      decide
    · have hwritten := littleEndian_ofLittleEndian (b.take 8)
      rw [hhead] at hwritten
      refine ⟨(b.drop 8).drop (ofLittleEndian (b.take 8)), ?_⟩
      rw [encode, hv, hwritten, List.append_assoc, List.take_append_drop, List.take_append_drop]
  · cases h

theorem decode_of_prefix {b v : Bytes} (hv : v.length < 2 ^ 64) (h : encode v <+: b) :
    decode b = .ok v := by
  obtain ⟨rest, rfl⟩ := h
  exact decode_encode_append hv rest

/-- An envelope that is cut short is no envelope, not even of another value. -/
theorem rejects_of_cut {p v : Bytes} (hv : v.length < 2 ^ 64) (h : p <+: encode v)
    (hne : p ≠ encode v) : Rejects p := by
  rcases decode_cases p with ⟨w, hw⟩ | hp
  · -- What the reader would find in the rest of the envelope is in the whole envelope, too.
    obtain ⟨hlen, hhead⟩ := encode_prefix_of_decode hw
    have hwhole := decode_of_prefix hlen (hhead.trans h)
    rw [decode_encode hv] at hwhole
    obtain rfl := Except.ok.inj hwhole
    exact absurd (h.eq_of_length_le hhead.length_le) hne
  · exact hp

/-- A length that promises more bytes than follow it is no envelope. -/
theorem rejects_of_boast {n : Nat} {data : Bytes} (hn : n < 2 ^ 64) (hdata : data.length < n) :
    Rejects (littleEndian 8 n ++ data) := by
  have hlen := length_littleEndian 8 n
  unfold Rejects decode
  dsimp only
  rw [List.take_left' hlen, List.drop_left' hlen, ofLittleEndian_littleEndian hn, if_neg]
  omega

/-- **The codec loses nothing and detects every truncation.** A value is read back whatever follows
its envelope, an envelope that is cut short anywhere is rejected, and so is a length beyond the
data; all in all the reader finds a value where the bytes begin with its envelope, and rejects the
rest. -/
theorem codec_exact :
    (∀ v rest : Bytes, v.length < 2 ^ 64 → decode (encode v ++ rest) = .ok v) ∧
      (∀ v p : Bytes, v.length < 2 ^ 64 → p <+: encode v → p ≠ encode v → Rejects p) ∧
      (∀ v b : Bytes, v.length < 2 ^ 64 → (decode b = .ok v ↔ encode v <+: b)) ∧
      (∀ b : Bytes, (∀ v : Bytes, v.length < 2 ^ 64 → ¬ encode v <+: b) → Rejects b) ∧
      ∀ (n : Nat) (data : Bytes), n < 2 ^ 64 → data.length < n →
        Rejects (littleEndian 8 n ++ data) := by
  refine ⟨?_, ?_, ?_, ?_, ?_⟩
  · intro v rest hv
    exact decode_encode_append hv rest
  · intro v p hv hp hne
    exact rejects_of_cut hv hp hne
  · intro v b hv
    exact ⟨fun h => (encode_prefix_of_decode h).2, decode_of_prefix hv⟩
  · intro b hno
    rcases decode_cases b with ⟨v, h⟩ | h
    · obtain ⟨hv, hhead⟩ := encode_prefix_of_decode h
      exact absurd hhead (hno v hv)
    · exact h
  · intro n data hn hdata
    exact rejects_of_boast hn hdata

/-- The greatest length there is, two bytes that are followed by others, an envelope without its
last byte, and no bytes at all. -/
theorem codec_exact_extremes :
    Rejects (littleEndian 8 (2 ^ 64 - 1) ++ [1, 2, 3]) ∧
      decode (encode [0, 255] ++ [7, 7]) = .ok [0, 255] ∧
      Rejects (littleEndian 8 2 ++ [0]) ∧
      (decode [1, 0, 0, 0, 0, 0, 0, 0, 9, 8] = .ok [9] ↔
        encode [9] <+: [1, 0, 0, 0, 0, 0, 0, 0, 9, 8]) ∧
      Rejects [] := by
  obtain ⟨append, cut, iff, other, boast⟩ := codec_exact
  refine ⟨boast _ _ (by decide) (by decide), append _ _ (by decide), ?_, iff _ _ (by decide), ?_⟩
  · exact cut [0, 255] _ (by decide) (by decide) (by decide)
  · apply other
    intro v hv h
    have hle := h.length_le
    rw [length_encode] at hle
    exact absurd hle (by simp)

end ReadThrough.Envelope
