/-!
# Durations in words

A duration of whole milliseconds is written in seconds if it lasts a second or more, with up to
three decimal places and no trailing zero, else in milliseconds; no time at all is `0ns`.

## Main definitions

* `Duration.describe ms`: a duration of `ms` milliseconds in words
-/

namespace ReadThrough.Text.Duration

/-- The decimal places of a second that `ms < 1000` milliseconds take up, without trailing
zeros. -/
def places (ms : Nat) : List Char :=
  let digit := fun (n : Nat) => Char.ofNat ('0'.toNat + n % 10)
  ([digit (ms / 100), digit (ms / 10), digit ms].reverse.dropWhile (· == '0')).reverse

/-- A duration of `ms` milliseconds in words. -/
def describe (ms : Nat) : String :=
  if ms = 0 then "0ns"
  else if ms < 1000 then toString ms ++ "ms"
  else if ms % 1000 = 0 then toString (ms / 1000) ++ "s"
  else toString (ms / 1000) ++ "." ++ String.ofList (places (ms % 1000)) ++ "s"

example : describe 1500 = "1.5s" ∧ describe 1001 = "1.001s" ∧ describe 999 = "999ms" := by
  decide +kernel

end ReadThrough.Text.Duration
