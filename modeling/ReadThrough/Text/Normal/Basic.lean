import ReadThrough.Text.Normal.Order
import ReadThrough.Text.Normal.Parts

/-!
# Canonical composition

One text can be written with different characters. Its composed form takes all characters apart,
brings the marks into canonical order, and composes again what can be composed.

A mark is composed with the last character of class 0 before it, unless a mark of the same or a
higher class stands in between.

## Main definitions

* `compose cs`: the composed form of a text
-/

namespace ReadThrough.Text

/-- A text that is being composed. -/
structure Composer where
  /-- The characters that are done, latest first. -/
  done : List Char
  /-- The last character of class 0. -/
  base : Option Char
  /-- The marks after it that were not composed with it, latest first. -/
  marks : List Char

namespace Composer

/-- The characters of the text, latest first. -/
def toList (s : Composer) : List Char := s.marks ++ s.base.toList ++ s.done

/-- The character is next to the base, but for marks that do not keep it from the base. -/
def touches (s : Composer) (c : Char) : Bool :=
  match s.marks with
  | d :: _ => combiningClass d < combiningClass c
  | [] => true

/-- The text with one more character. -/
def push (s : Composer) (c : Char) : Composer :=
  match s.base.bind fun b => if s.touches c then composite? b c else none with
  | some b => { s with base := some b }
  | none =>
    if combiningClass c = 0 then ⟨s.toList, some c, []⟩ else { s with marks := c :: s.marks }

end Composer

/-- The composed form of a text. Below U+0300 there is nothing to compose. -/
def compose (cs : List Char) : List Char :=
  if cs.all fun c => c.toNat < 0x300 then cs
  else ((reorder (cs.flatMap parts)).foldl Composer.push ⟨[], none, []⟩).toList.reverse

end ReadThrough.Text
