import ReadThrough.Text.Numeral

/-!
# Internet addresses of four bytes

An address is written as up to four numbers with dots between them and perhaps a dot behind. The
last number fills the bytes that the others leave; each of the others is one byte. A number is
hexadecimal after `0x` and octal after `0`.

## Main definitions

* `Ip4`: an address
* `Ip4.isMeant labels`: a name with these labels has to be read as an address
* `Ip4.parse? labels`: the address that a name with these labels is
* `Ip4.render a`: the text of an address
-/

namespace ReadThrough

/-- An internet address of four bytes. -/
structure Ip4 where
  /-- The bytes as one number, the first byte highest. -/
  value : UInt32
  deriving DecidableEq, Repr

namespace Ip4

open Text.Numeral (ofDigits?)

/-! ## Numbers -/

/-- The number that a label of an address stands for. -/
def number? : List Char → Option Nat
  | [] => none
  | '0' :: c :: rest => if c = 'x' ∨ c = 'X' then ofDigits? 16 rest else ofDigits? 8 (c :: rest)
  | cs => ofDigits? 10 cs

/-! ## Addresses -/

/-- The labels of a name without the empty one behind a dot at the end. -/
def dropRoot (labels : List (List Char)) : List (List Char) :=
  if labels.getLast? = some [] then labels.dropLast else labels

/-- A name with these labels has to be read as an address: its last label is a number, or would be
one but for its digits. -/
def isMeant (labels : List (List Char)) : Bool :=
  match (dropRoot labels).getLast? with
  | some label => (number? label).isSome || (!label.isEmpty && label.all Char.isDigit)
  | none => false

/-- The address that a name with these labels is. -/
def parse? (labels : List (List Char)) : Option Ip4 := do
  let numbers ← (dropRoot labels).mapM number?
  let last ← numbers.getLast?
  let bytes := numbers.dropLast
  let bitsLeft := 8 * (4 - bytes.length)
  if bytes.length < 4 ∧ bytes.all (· < 256) ∧ last >>> bitsLeft = 0 then
    some ⟨.ofNat ((bytes.foldl (256 * · + ·) 0 <<< bitsLeft) + last)⟩
  else none

/-- The text of an address: its bytes with dots between them. -/
def render (a : Ip4) : String :=
  ".".intercalate ([24, 16, 8, 0].map fun s => toString ((a.value.toNat >>> s) % 256))

example : (parse? ["0x7F".toList, "1".toList]).map render = some "127.0.0.1" := by decide +kernel

example : (parse? ["256".toList]).map render = some "0.0.1.0" ∧
    parse? ["256".toList, "1".toList] = none := by
  decide +kernel

end Ip4

end ReadThrough
