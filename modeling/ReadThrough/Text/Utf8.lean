/-!
# Bytes and their reading as text

Values travel as bytes, keys and names as text. A text has one encoding, and a byte sequence that
encodes no text has a first flaw: the bytes from which no character can be read.

## Main definitions

* `Bytes`: byte sequences
* `utf8 s`, `ofUtf8? b`: a text's encoding, and the text with a given encoding
* `decode b`: the text with encoding `b`, or the first flaw of `b`
* `lossy b`: the text of `b` with each flaw replaced by U+FFFD

## Main results

* `ofUtf8?_utf8`, `eq_utf8_of_ofUtf8?`: encoding and reading are inverse
-/

namespace ReadThrough

/-- A sequence of bytes. -/
abbrev Bytes := List UInt8

namespace Text

/-! ## Encoding -/

/-- The UTF-8 encoding of a text. -/
def utf8 (s : String) : Bytes := s.toByteArray.data.toList

/-- The text encoded by the bytes, if they encode one. -/
def ofUtf8? (b : Bytes) : Option String := String.fromUTF8? ⟨b.toArray⟩

@[simp] theorem ofUtf8?_utf8 (s : String) : ofUtf8? (utf8 s) = some s := by
  change String.fromUTF8? s.toByteArray = some s
  rw [String.fromUTF8?, dif_pos s.isValidUTF8]
  rfl

theorem eq_utf8_of_ofUtf8? {b : Bytes} {s : String} (h : ofUtf8? b = some s) : b = utf8 s := by
  simp only [ofUtf8?, String.fromUTF8?] at h
  split at h
  · simp only [Option.some.injEq] at h
    subst h
    rfl
  · simp at h

theorem utf8_injective {s t : String} (h : utf8 s = utf8 t) : s = t := by
  have := congrArg ofUtf8? h
  simpa using this

@[simp] theorem length_utf8 (s : String) : (utf8 s).length = s.utf8ByteSize := rfl

/-! ## What a byte sequence begins with -/

/-- The beginning of a nonempty byte sequence, with the number of bytes it takes up. -/
inductive Piece where
  /-- A character. -/
  | character (width : Nat)
  /-- Bytes no character begins with, cut off by a byte that cannot follow. -/
  | flaw (width : Nat)
  /-- Bytes that begin a character the sequence ends within. -/
  | cut
  deriving DecidableEq, Repr

/-- For the first byte of a character: how many bytes follow it, and the least and greatest value
of the first of them. -/
def continuation (b : UInt8) : Option (Nat × UInt8 × UInt8) :=
  if b < 0x80 then some (0, 0x80, 0xBF)
  else if b < 0xC2 then none
  else if b < 0xE0 then some (1, 0x80, 0xBF)
  else if b = 0xE0 then some (2, 0xA0, 0xBF)
  else if b = 0xED then some (2, 0x80, 0x9F)
  else if b < 0xF0 then some (2, 0x80, 0xBF)
  else if b = 0xF0 then some (3, 0x90, 0xBF)
  else if b < 0xF4 then some (3, 0x80, 0xBF)
  else if b = 0xF4 then some (3, 0x80, 0x8F)
  else none

/-- Reads `n` further bytes after the `width` bytes already read, the first of them between `lo`
and `hi`. -/
def follow : Nat → UInt8 → UInt8 → Nat → Bytes → Piece
  | 0, _, _, width, _ => .character width
  | _ + 1, _, _, _, [] => .cut
  | n + 1, lo, hi, width, b :: rest =>
    if lo ≤ b ∧ b ≤ hi then follow n 0x80 0xBF (width + 1) rest else .flaw width

/-- What the sequence `b :: rest` begins with. -/
def piece (b : UInt8) (rest : Bytes) : Piece :=
  match continuation b with
  | none => .flaw 1
  | some (n, lo, hi) => follow n lo hi 1 rest

/-! ## Flaws -/

/-- The first place where a byte sequence stops being text: its index, and the number of bytes to
skip there, or nothing if the sequence ends within a character. -/
structure Flaw where
  /-- Number of bytes before the flaw. -/
  index : Nat
  /-- Bytes of the flaw; none if more bytes might have mended it. -/
  width : Option Nat
  deriving DecidableEq, Repr

/-- The first flaw of a byte sequence that begins at index `i`. -/
def flawFrom (i : Nat) : Bytes → Option Flaw
  | [] => none
  | b :: rest =>
    match piece b rest with
    | .character width => flawFrom (i + width) (rest.drop (width - 1))
    | .flaw width => some ⟨i, some width⟩
    | .cut => some ⟨i, none⟩
  termination_by b => b.length
  decreasing_by simp only [List.length_drop, List.length_cons]; omega

/-- The text with the given encoding, or the first flaw. -/
def decode (b : Bytes) : Except Flaw String :=
  match ofUtf8? b with
  | some s => .ok s
  | none => .error ((flawFrom 0 b).getD ⟨0, none⟩)

@[simp] theorem decode_utf8 (s : String) : decode (utf8 s) = .ok s := by simp [decode]

theorem decode_eq_ok_iff {b : Bytes} {s : String} : decode b = .ok s ↔ b = utf8 s := by
  constructor
  · intro h
    unfold decode at h
    split at h
    · next t ht =>
      simp only [Except.ok.injEq] at h
      exact h ▸ eq_utf8_of_ofUtf8? ht
    · simp at h
  · rintro rfl
    simp

/-- A flaw in words. -/
def Flaw.message (f : Flaw) : String :=
  match f.width with
  | some width => "invalid utf-8 sequence of " ++ toString width ++ " bytes from index " ++
      toString f.index
  | none => "incomplete utf-8 byte sequence from index " ++ toString f.index

/-! ## Reading text with flaws -/

/-- The character encoded by one to four bytes. -/
def characterOf (bs : Bytes) : Char :=
  let tail := fun (b : UInt8) => b.toNat % 0x40
  match bs with
  | [a] => Char.ofNat a.toNat
  | [a, b] => Char.ofNat (a.toNat % 0x20 * 0x40 + tail b)
  | [a, b, c] => Char.ofNat ((a.toNat % 0x10 * 0x40 + tail b) * 0x40 + tail c)
  | [a, b, c, d] => Char.ofNat (((a.toNat % 0x08 * 0x40 + tail b) * 0x40 + tail c) * 0x40 + tail d)
  | _ => '\uFFFD'

/-- The characters of a byte sequence, one U+FFFD for each flaw. -/
def repair : Bytes → List Char
  | [] => []
  | b :: rest =>
    match piece b rest with
    | .character width =>
      characterOf (b :: rest.take (width - 1)) :: repair (rest.drop (width - 1))
    | .flaw width => '\uFFFD' :: repair (rest.drop (width - 1))
    | .cut => ['\uFFFD']
  termination_by b => b.length
  decreasing_by all_goals simp only [List.length_drop, List.length_cons]; omega

/-- The text of a byte sequence, with one U+FFFD for each flaw. -/
def lossy (b : Bytes) : String :=
  match ofUtf8? b with
  | some s => s
  | none => String.ofList (repair b)

@[simp] theorem lossy_utf8 (s : String) : lossy (utf8 s) = s := by simp [lossy]

end Text

end ReadThrough
