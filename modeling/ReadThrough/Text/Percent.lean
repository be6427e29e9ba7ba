import ReadThrough.Text.Utf8

/-!
# Percent-encoding

A byte outside the unreserved characters is written as `%` and two upper-case hexadecimal digits.
Reading turns `%` and two hexadecimal digits of either case into a byte and leaves every other
byte as it is, a `%` without two digits after it too.

## Main definitions

* `encode b`, `encodeText s`: the encoded characters of bytes and of a text
* `decode b`: the bytes with every escape resolved

## Main results

* `decode_encode`: reading undoes encoding
-/

namespace ReadThrough.Text.Percent

/-! ## Digits -/

/-- The upper-case hexadecimal digit of a value below 16. -/
def digit (n : UInt8) : UInt8 := if n < 10 then 0x30 + n else 0x37 + n

/-- The value of a hexadecimal digit of either case. -/
def value? (b : UInt8) : Option UInt8 :=
  if 0x30 ≤ b ∧ b ≤ 0x39 then some (b - 0x30)
  else if 0x41 ≤ b ∧ b ≤ 0x46 then some (b - 0x37)
  else if 0x61 ≤ b ∧ b ≤ 0x66 then some (b - 0x57)
  else none

/-! ## Encoding -/

/-- The bytes written as themselves: `A`–`Z`, `a`–`z`, `0`–`9`, `-`, `_`, `.` and `~`. -/
def unreserved (b : UInt8) : Bool :=
  (0x30 ≤ b && b ≤ 0x39) || (0x41 ≤ b && b ≤ 0x5A) || (0x61 ≤ b && b ≤ 0x7A) ||
    b == 0x2D || b == 0x5F || b == 0x2E || b == 0x7E

/-- The encoding of one byte. -/
def encodeByte (b : UInt8) : Bytes :=
  if unreserved b then [b] else [0x25, digit (b / 16), digit (b % 16)]

/-- The encoding of a byte sequence, as ASCII bytes. -/
def encode (b : Bytes) : Bytes := b.flatMap encodeByte

/-- The encoding of a text. -/
def encodeText (s : String) : String :=
  String.ofList ((encode (utf8 s)).map fun b => Char.ofNat b.toNat)

/-! ## Decoding -/

/-- The byte escaped by `x`, `a` and `b`, if `x` is `%` and both others are digits. -/
def escaped? (x a b : UInt8) : Option UInt8 :=
  if x = 0x25 then
    match value? a, value? b with
    | some h, some l => some (16 * h + l)
    | _, _ => none
  else none

/-- The bytes with every escape resolved. -/
def decode : Bytes → Bytes
  | x :: a :: b :: rest =>
    match escaped? x a b with
    | some v => v :: decode rest
    | none => x :: decode (a :: b :: rest)
  | short => short

/-! ## Reading what was written -/

theorem escaped?_digits (b : UInt8) :
    escaped? 0x25 (digit (b / 16)) (digit (b % 16)) = some b := by
  have all : ∀ n < 256, escaped? 0x25 (digit (UInt8.ofNat n / 16)) (digit (UInt8.ofNat n % 16)) =
      some (UInt8.ofNat n) := by
    decide +kernel
  simpa using all b.toNat b.toNat_lt

theorem ne_percent_of_unreserved {b : UInt8} (h : unreserved b) : b ≠ 0x25 := by
  rintro rfl
  revert h
  decide

theorem escaped?_of_ne {x : UInt8} (h : x ≠ 0x25) (a b : UInt8) : escaped? x a b = none := by
  simp [escaped?, h]

theorem decode_cons_of_ne {x : UInt8} (h : x ≠ 0x25) (rest : Bytes) :
    decode (x :: rest) = x :: decode rest := by
  match rest with
  | [] => rfl
  | [_] => rfl
  | a :: b :: r => rw [decode, escaped?_of_ne h]

theorem decode_encodeByte_append (b : UInt8) (rest : Bytes) :
    decode (encodeByte b ++ rest) = b :: decode rest := by
  unfold encodeByte
  split
  · next h => exact decode_cons_of_ne (ne_percent_of_unreserved h) rest
  · rw [List.cons_append, List.cons_append, List.cons_append, List.nil_append, decode,
      escaped?_digits]

theorem decode_encode_append (b rest : Bytes) : decode (encode b ++ rest) = b ++ decode rest := by
  induction b with
  | nil => rfl
  | cons x r ih =>
    rw [encode, List.flatMap_cons, List.append_assoc, decode_encodeByte_append, List.cons_append]
    exact congrArg (x :: ·) ih

/-- Reading undoes encoding. -/
theorem decode_encode (b : Bytes) : decode (encode b) = b := by
  have := decode_encode_append b []
  simpa [decode] using this

end ReadThrough.Text.Percent
