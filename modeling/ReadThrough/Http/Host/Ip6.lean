import ReadThrough.Text.Numeral

/-!
# Internet addresses of eight pieces

An address is written as eight hexadecimal numbers with colons between them. Once, two colons may
stand for one or more pieces that are zero, and the last two pieces may be written as four decimal
numbers with dots between them.

## Main definitions

* `Ip6`: an address
* `Ip6.parse? cs`: the address a text is
* `Ip6.render a`: the shortest text of an address
-/

namespace ReadThrough

/-- An internet address of eight pieces. -/
structure Ip6 where
  /-- The pieces. -/
  pieces : List UInt16
  /-- There are eight of them. -/
  length_pieces : pieces.length = 8
  deriving DecidableEq, Repr

namespace Ip6

open Text.Numeral (ofDigits?)

/-! ## Reading -/

/-- The piece that one to four hexadecimal digits stand for. -/
def piece? (cs : List Char) : Option UInt16 :=
  if 1 ≤ cs.length ∧ cs.length ≤ 4 then (ofDigits? 16 cs).map UInt16.ofNat else none

/-- The byte that a decimal number without needless zeros stands for. -/
def byte? (cs : List Char) : Option UInt16 :=
  if cs = [] ∨ (cs.head? = some '0' ∧ cs ≠ ['0']) then none
  else ((ofDigits? 10 cs).filter (· < 256)).map UInt16.ofNat

/-- The two pieces that four bytes with dots between them stand for. -/
def dotted? (cs : List Char) : Option (List UInt16) :=
  match (cs.splitOn '.').mapM byte? with
  | some [a, b, c, d] => some [256 * a + b, 256 * c + d]
  | _ => none

/-- The pieces of an address, or of what follows its gap. -/
def pieces? : List (List Char) → Option (List UInt16)
  | [] => some []
  | [cs] => ((piece? cs).map ([·])) <|> dotted? cs
  | cs :: rest => do return (← piece? cs) :: (← pieces? rest)

/-- What stands before and after two colons. -/
def splitGap? : List Char → Option (List Char × List Char)
  | ':' :: ':' :: after => some ([], after)
  | c :: rest => (splitGap? rest).map fun (before, after) => (c :: before, after)
  | [] => none

/-- The parts of a text between colons; none if it is empty. -/
def groups (cs : List Char) : List (List Char) := if cs = [] then [] else cs.splitOn ':'

/-- The address that a text is. -/
def parse? (cs : List Char) : Option Ip6 := do
  let pieces ← match splitGap? cs with
    | none => pieces? (groups cs)
    | some (before, after) =>
      let before ← (groups before).mapM piece?
      let after ← pieces? (groups after)
      let missing := 8 - (before.length + after.length)
      if missing = 0 then none else some (before ++ List.replicate missing 0 ++ after)
  if h : pieces.length = 8 then some ⟨pieces, h⟩ else none

/-! ## Writing -/

/-- The index of the first of the longest runs of zeros, and its length. -/
def gap (pieces : List UInt16) : Nat × Nat :=
  (List.range pieces.length).foldl (fun best i =>
    let n := ((pieces.drop i).takeWhile (· == 0)).length
    if best.2 < n then (i, n) else best) (0, 0)

/-- The text of pieces, with colons between them. -/
def renderPieces (pieces : List UInt16) : String :=
  ":".intercalate (pieces.map fun p => String.ofList (Nat.toDigits 16 p.toNat))

/-- The text of an address. Two colons stand for the first of the longest runs of zeros, unless it
is a single one. -/
def render (a : Ip6) : String :=
  let (i, n) := gap a.pieces
  if n < 2 then renderPieces a.pieces
  else renderPieces (a.pieces.take i) ++ "::" ++ renderPieces (a.pieces.drop (i + n))

example : (parse? "1:0:0:2:0:0:3:4".toList).map render = some "1::2:0:0:3:4" := by decide +kernel

example : (parse? "::1.2.3.4".toList).map render = some "::102:304" := by decide +kernel

end Ip6

end ReadThrough
