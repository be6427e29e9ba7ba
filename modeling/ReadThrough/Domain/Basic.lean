import ReadThrough.Domain.Direction
import ReadThrough.Domain.Folding
import ReadThrough.Domain.Joining
import ReadThrough.Domain.Mark
import ReadThrough.Domain.Punycode
import ReadThrough.Text.Normal.Basic

/-!
# Domain names

A domain name is made of labels with dots between them. However it is written, it is sent in ASCII:
characters are folded and composed, and a label that is not ASCII then is written in Punycode after
`xn--`. A label that is written so already has to be one that would be written so.

## Main definitions

* `toAscii? cs`: the ASCII form of a domain name
-/

namespace ReadThrough.Domain

/-- The character is in ASCII. -/
def isAscii (c : Char) : Bool := c.toNat < 0x80

/-- The characters of ASCII that no domain name contains: controls, the space, and those with a
meaning in a URL. -/
def isReserved (c : Char) : Bool :=
  c.toNat ≤ 0x20 || c.toNat == 0x7F ||
    c ∈ ['%', '#', '/', ':', '<', '>', '?', '@', '[', '\\', ']', '^', '|']

/-! ## Labels -/

/-- The label that a written one stands for: one in Punycode for a text that is folded and composed
already, any other for itself. -/
def readLabel? : List Char → Option (List Char)
  | 'x' :: 'n' :: '-' :: '-' :: code =>
    if code.isEmpty || code.getLast? == some '-' || 2000 < code.length then none
    else
      match Punycode.decode? code with
      | some label =>
        if label.all (fun c => fold? c == some [c]) && Text.compose label == label then some label
        else none
      | none => none
  | label => some label

/-- The label may stand in a domain name, as far as it does not depend on the others. -/
def isLabel (label : List Char) : Bool :=
  !label.any isReserved && !label.head?.any isMark && joinersFit label &&
    (label.all isAscii || label.length ≤ 1000)

/-- The ASCII form of a label. -/
def writeLabel (label : List Char) : List Char :=
  if label.all isAscii then label else "xn--".toList ++ Punycode.encode label

/-! ## Names -/

/-- The labels may stand in one domain name: if a character is written from right to left, each
label has one direction. -/
def areDirected (labels : List (List Char)) : Bool :=
  !labels.any (·.any turns) || labels.all isDirected

/-- The ASCII form of a domain name, if it is one. -/
def toAscii? (cs : List Char) : Option (List Char) := do
  let folded ← cs.mapM fold?
  let labels ← ((Text.compose folded.flatten).splitOn '.').mapM readLabel?
  if labels.all isLabel && areDirected labels then
    some (['.'].intercalate (labels.map writeLabel))
  else none

end ReadThrough.Domain
