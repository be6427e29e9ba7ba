import ReadThrough.Text.Numeral

/-!
# Tables of code points

What is said of many code points alike is written as a table of stretches. A table is a text: its
numbers are hexadecimal, blanks stand between them, and a semicolon ends each row. The first two
numbers of a row are the ends of the stretch, the others are what is said of it. Stretches ascend
and do not overlap.

## Main definitions

* `rows s`: the rows of numbers a text holds
* `Stretch`, `Stretch.table s`: a stretch, and the stretches a text holds
* `Stretch.find? a n`: the stretch a code point lies in
-/

namespace ReadThrough.Text

/-! ## Rows of numbers -/

/-- What has been read of a table. -/
structure RowReader where
  /-- The rows that have ended. -/
  rows : Array (List Nat)
  /-- The numbers that have ended since, latest first. -/
  row : List Nat
  /-- The number that has not. -/
  number : Option Nat

/-- Reads one more character of a table. -/
def RowReader.read (r : RowReader) (c : Char) : RowReader :=
  match Numeral.hexDigit? c with
  | some d => { r with number := some (16 * r.number.getD 0 + d) }
  | none =>
    let row := r.number.toList ++ r.row
    if c = ';' then ⟨r.rows.push row.reverse, [], none⟩ else ⟨r.rows, row, none⟩

/-- The rows of numbers a text holds. -/
def rows (s : String) : Array (List Nat) := (s.toList.foldl RowReader.read ⟨#[], [], none⟩).rows

/-! ## Stretches -/

/-- A stretch of code points, with what is said of them. -/
structure Stretch where
  /-- The first code point. -/
  first : Nat
  /-- The last code point. -/
  last : Nat
  /-- What is said of the stretch. -/
  note : List Nat
  deriving DecidableEq, Repr

namespace Stretch

/-- The stretches a text holds. -/
def table (s : String) : Array Stretch :=
  (rows s).filterMap fun
    | first :: last :: note => some ⟨first, last, note⟩
    | _ => none

/-- The stretch a code point lies in, among those with an index from `lo` on below `hi`. -/
def findBetween (a : Array Stretch) (n lo hi : Nat) : Option Stretch :=
  if lo < hi then
    let mid := (lo + hi) / 2
    match a[mid]? with
    | some s =>
      if n < s.first then findBetween a n lo mid
      else if s.last < n then findBetween a n (mid + 1) hi
      else some s
    | none => none
  else none
  termination_by hi - lo

/-- The stretch a code point lies in. -/
def find? (a : Array Stretch) (n : Nat) : Option Stretch := findBetween a n 0 a.size

/-- The first number said of a code point; 0 of one that lies in no stretch. -/
def value (a : Array Stretch) (n : Nat) : Nat := (find? a n).elim 0 fun s => s.note.headD 0

end Stretch

end ReadThrough.Text
