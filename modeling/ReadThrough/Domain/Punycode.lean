/-!
# Punycode

Punycode writes any text with letters, digits and hyphens. The ASCII characters of the text come
first, with a hyphen behind them. Then the other characters follow in the order of their code
points, each as the distance from the one before it, counted over all places where a character
could be put in at all code points in between.

A distance is written in digits of base 36, the lowest first. A digit below its threshold ends the
number. The thresholds move with a bias that adapts to the distances so far.

## Main definitions

* `encode cs`: the written form of a text
* `decode? cs`: the text of a written form
-/

namespace ReadThrough.Domain.Punycode

/-! ## Digits -/

/-- The digit of a value below 36. -/
def digit (d : Nat) : Char := if d < 26 then Char.ofNat (0x61 + d) else Char.ofNat (0x30 + (d - 26))

/-- The value of a digit. -/
def value? (c : Char) : Option Nat :=
  if 'a' ≤ c ∧ c ≤ 'z' then some (c.toNat - 'a'.toNat)
  else if '0' ≤ c ∧ c ≤ '9' then some (c.toNat - '0'.toNat + 26)
  else none

/-- The threshold of a digit at the place `k`, which counts in steps of 36 from 36 on. -/
def threshold (bias k : Nat) : Nat := max 1 (min 26 (k - bias))

theorem one_le_threshold (bias k : Nat) : 1 ≤ threshold bias k := by
  unfold threshold
  omega

/-- A distance divided by 35 until it is below 456, and `k` with 36 more for each division. -/
def shrink (delta k : Nat) : Nat × Nat :=
  if 455 < delta then shrink (delta / 35) (k + 36) else (delta, k)
  termination_by delta
  decreasing_by exact Nat.div_lt_self (by omega) (by omega)

/-- The bias after a distance, if `count` characters are put in with it. The first distance is
longer than the others and counts less. -/
def adapt (delta count : Nat) (isFirst : Bool) : Nat :=
  let delta := delta / if isFirst then 700 else 2
  let (delta, k) := shrink (delta + delta / count) 0
  k + 36 * delta / (delta + 38)

/-! ## Numbers -/

/-- A number in digits from the place `k` on. -/
def encodeNumber (bias k n : Nat) : List Char :=
  let t := threshold bias k
  if n < t then [digit n]
  else digit (t + (n - t) % (36 - t)) :: encodeNumber bias (k + 36) ((n - t) / (36 - t))
  termination_by n
  decreasing_by
    have := one_le_threshold bias k
    exact Nat.lt_of_le_of_lt (Nat.div_le_self ..) (by omega)

/-- The bound of all numbers that are read. -/
def numberBound : Nat := UInt32.size

/-- The sum of `n` and the number that begins with the digit at the place `k`, whose unit is
`weight`; and what follows the number. -/
def decodeNumber? (bias : Nat) : List Char → (k weight n : Nat) → Option (Nat × List Char)
  | [], _, _, _ => none
  | c :: rest, k, weight, n =>
    match value? c with
    | none => none
    | some d =>
      let t := threshold bias k
      let n := n + d * weight
      if numberBound ≤ n then none
      else if d < t then some (n, rest)
      else if numberBound ≤ weight * (36 - t) then none
      else decodeNumber? bias rest (k + 36) (weight * (36 - t)) n

theorem length_lt_of_decodeNumber? {bias : Nat} {cs : List Char} {k weight n : Nat}
    {r : Nat × List Char} (h : decodeNumber? bias cs k weight n = some r) :
    r.2.length < cs.length := by
  induction cs generalizing k weight n with
  | nil => simp [decodeNumber?] at h
  | cons c rest ih =>
    rw [decodeNumber?] at h
    split at h
    · simp at h
    · simp only at h
      split at h
      · simp at h
      · split at h
        · cases h
          simp
        · split at h
          · simp at h
          · have := ih h
            simp
            omega

/-! ## Writing -/

/-- What has been written. -/
structure Writer where
  /-- The digits. -/
  out : List Char
  /-- The distance since the last character. -/
  delta : Nat
  /-- The bias. -/
  bias : Nat
  /-- The number of characters that are written. -/
  count : Nat

/-- Goes past a character of the text while the characters with the code point `n` are written.
The first `ascii` characters were written at the start. -/
def Writer.pass (ascii n : Nat) (w : Writer) (c : Char) : Writer :=
  if c.toNat < n then { w with delta := w.delta + 1 }
  else if c.toNat = n then
    { out := w.out ++ encodeNumber w.bias 36 w.delta, delta := 0,
      bias := adapt w.delta (w.count + 1) (w.count == ascii), count := w.count + 1 }
  else w

/-- Goes through the text once for each of the code points left, where all below `n` are done. -/
def Writer.run (text : List Char) (ascii : Nat) : List Nat → Nat → Writer → Writer
  | [], _, w => w
  | m :: rest, n, w =>
    let w := { w with delta := w.delta + (m - n) * (w.count + 1) }
    let w := text.foldl (Writer.pass ascii m) w
    run text ascii rest (m + 1) { w with delta := w.delta + 1 }

/-- The code points of a text outside ASCII, ascending, each once. -/
def codePoints (cs : List Char) : List Nat :=
  (((cs.map Char.toNat).filter (0x80 ≤ ·)).mergeSort fun m n => decide (m ≤ n)).eraseReps

/-- The written form of a text. -/
def encode (cs : List Char) : List Char :=
  let ascii := cs.filter (·.toNat < 0x80)
  let start := if ascii.isEmpty then [] else ascii ++ ['-']
  start ++ (Writer.run cs ascii.length (codePoints cs) 0x80 ⟨[], 0, 72, ascii.length⟩).out

/-! ## Reading -/

/-- Puts in the characters that digits stand for, where `n` is the code point and `i` the place
reached. -/
def decodeAfter (text : List Char) (bias n i : Nat) : List Char → Option (List Char)
  | [] => some text
  | c :: rest =>
    match h : decodeNumber? bias (c :: rest) 36 1 i with
    | none => none
    | some (j, rest) =>
      let count := text.length + 1
      let n := n + j / count
      if n.isValidChar then
        decodeAfter (text.insertIdx (j % count) (Char.ofNat n)) (adapt (j - i) count (i == 0)) n
          (j % count + 1) rest
      else none
  termination_by cs => cs.length
  decreasing_by simpa using length_lt_of_decodeNumber? h

/-- The text of a written form. A hyphen with no ASCII character before it is none of the form. -/
def decode? (cs : List Char) : Option (List Char) :=
  let digits := (cs.reverse.takeWhile (· != '-')).reverse
  match (cs.reverse.dropWhile (· != '-')).reverse with
  | [] => decodeAfter [] 72 0x80 0 digits
  | ['-'] => none
  | start =>
    if start.all (·.toNat < 0x80) then decodeAfter start.dropLast 72 0x80 0 digits else none

example : encode "münchen".toList = "mnchen-3ya".toList ∧
    decode? "mnchen-3ya".toList = some "münchen".toList := by
  decide +kernel

end ReadThrough.Domain.Punycode
