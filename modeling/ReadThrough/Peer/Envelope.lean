import ReadThrough.Fault
import ReadThrough.Text.Utf8

/-!
# Envelopes

A peer answers with an envelope: the number of bytes of the value as eight bytes, least significant
first, then the value. Whatever follows is ignored; an envelope cut short is a fault.

## Main definitions

* `Envelope.encode v`: the envelope of a value's bytes
* `Envelope.decode b`: the bytes in an envelope
-/

namespace ReadThrough.Envelope

/-- The `n` least significant bytes of a number, least significant first. -/
def littleEndian : Nat → Nat → Bytes
  | 0, _ => []
  | n + 1, x => UInt8.ofNat (x % 256) :: littleEndian n (x / 256)

/-- The number written by bytes, least significant first. -/
def ofLittleEndian : Bytes → Nat
  | [] => 0
  | b :: rest => b.toNat + 256 * ofLittleEndian rest

/-- The envelope of a value's bytes. -/
def encode (v : Bytes) : Bytes := littleEndian 8 v.length ++ v

/-- The bytes in an envelope. -/
def decode (b : Bytes) : Except Fault Bytes :=
  let size := ofLittleEndian (b.take 8)
  let rest := b.drop 8
  if 8 ≤ b.length ∧ size ≤ rest.length then .ok (rest.take size)
  else .error (.protocol "decoding peer response: io error: unexpected end of file")

end ReadThrough.Envelope
