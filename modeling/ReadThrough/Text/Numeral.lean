/-!
# Unsigned numerals

A decimal numeral is one or more ASCII digits, with at most one `+` in front, that stand for a
number below a bound. Other bases have digits up to `f` of either case.

## Main definitions

* `digits? cs`: the number written by decimal digits alone
* `parse? bound cs`: the number a decimal numeral stands for, if it is below `bound`
* `ofDigits? base cs`: the number written by digits of another base

## Main results

* `digits?_toString`, `toString_inj`: a number is read from its own digits, so they are no other's
-/

namespace ReadThrough.Text.Numeral

/-- The number written by one or more digits. -/
def digits? (cs : List Char) : Option Nat :=
  if cs ≠ [] ∧ cs.all Char.isDigit then
    some (cs.foldl (fun n c => 10 * n + (c.toNat - '0'.toNat)) 0)
  else none

/-- The digits of a numeral: what follows its sign. -/
def unsigned : List Char → List Char
  | '+' :: rest => rest
  | cs => cs

/-- The number a numeral stands for, if it is below `bound`. -/
def parse? (bound : Nat) (cs : List Char) : Option Nat :=
  (digits? (unsigned cs)).filter (· < bound)

/-! ## Writing -/

theorem toList_toString (n : Nat) : (toString n).toList = Nat.toDigits 10 n := Nat.toList_repr

theorem toList_toString_ne_nil (n : Nat) : (toString n).toList ≠ [] := by
  rw [toList_toString]
  exact Nat.toDigits_ne_nil

theorem isDigit_of_mem_toString {n : Nat} {c : Char} (h : c ∈ (toString n).toList) :
    c.isDigit := by
  rw [toList_toString] at h
  exact Nat.isDigit_of_mem_toDigits (by decide) (by decide) h

/-- A number is read from its own digits. -/
theorem digits?_toString (n : Nat) : digits? (toString n).toList = some n := by
  have hdigits : (toString n).toList.all Char.isDigit :=
    List.all_eq_true.mpr fun _ hc => isDigit_of_mem_toString hc
  rw [digits?, if_pos ⟨toList_toString_ne_nil n, hdigits⟩, toList_toString]
  exact congrArg some (Nat.ofDigitChars_toDigits (by decide) (by decide))

/-- Different numbers have different digits. -/
theorem toString_inj {m n : Nat} (h : toString m = toString n) : m = n := by
  have hm := digits?_toString m
  rw [h, digits?_toString] at hm
  exact (Option.some.inj hm).symm

/-! ## Other bases -/

/-- The value of a hexadecimal digit of either case. -/
def hexDigit? (c : Char) : Option Nat :=
  if '0' ≤ c ∧ c ≤ '9' then some (c.toNat - '0'.toNat)
  else if 'a' ≤ c ∧ c ≤ 'f' then some (c.toNat - 'a'.toNat + 10)
  else if 'A' ≤ c ∧ c ≤ 'F' then some (c.toNat - 'A'.toNat + 10)
  else none

/-- The number that digits of a base up to 16 stand for; no digits stand for zero. -/
def ofDigits? (base : Nat) (cs : List Char) : Option Nat :=
  cs.foldlM (fun n c => ((hexDigit? c).filter (· < base)).map (base * n + ·)) 0

end ReadThrough.Text.Numeral
