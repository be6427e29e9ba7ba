import ReadThrough.Text.Utf8
import ReadThrough.Text.Numeral

/-!
# Hashes

A hash takes bytes to a point of the circle of 32-bit words. The ring uses CRC-32 unless told
otherwise; the others make the place of a key easy to foresee.

## Main definitions

* `crc32`: the cyclic redundancy check with the reflected polynomial `0xEDB88320`
* `numeral`: the number the bytes write, or zero
* `sum`, `count`, `constant n`: sum of the bytes, number of the bytes, always `n`
-/

namespace ReadThrough

/-- A place on the circle of 32-bit words for every byte sequence. -/
abbrev Hash := Bytes → UInt32

namespace Hash

/-- Shifts one bit out of a checksum. -/
def shiftBit (c : UInt32) : UInt32 := if c &&& 1 = 1 then (c >>> 1) ^^^ 0xEDB88320 else c >>> 1

/-- Takes one byte into a checksum. -/
def takeByte (c : UInt32) (b : UInt8) : UInt32 :=
  Nat.repeat shiftBit 8 (c ^^^ b.toUInt32)

/-- The checksum CRC-32. -/
def crc32 : Hash := fun b => b.foldl takeByte 0xFFFFFFFF ^^^ 0xFFFFFFFF

/-- The 32-bit number whose decimal numeral the bytes are, or zero if they are none. -/
def numeral : Hash := fun b =>
  .ofNat ((Text.Numeral.parse? UInt32.size (b.map fun x => Char.ofNat x.toNat)).getD 0)

/-- The sum of the bytes. -/
def sum : Hash := fun b => b.foldl (fun n x => n + x.toUInt32) 0

/-- The number of bytes. -/
def count : Hash := fun b => .ofNat b.length

/-- The same point for all byte sequences. -/
def constant (n : UInt32) : Hash := fun _ => n

example : crc32 (Text.utf8 "123456789") = 0xCBF43926 := by decide +kernel

end Hash

end ReadThrough
