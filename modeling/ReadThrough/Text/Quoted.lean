import ReadThrough.Text.Visible

/-!
# Quoted text

A text is quoted between double quotes. The double quote and the backslash have a backslash put in
front; tab, carriage return, line feed and the null character have an escape of one letter; any
other character without a visible shape of its own is written by its number.

## Main definitions

* `quote s`: the quoted text
* `quoteList xs`: a list of quoted texts
-/

namespace ReadThrough.Text

/-- The digits of a number in base 16, in lower case. -/
def lowerHex (n : Nat) : List Char := Nat.toDigits 16 n

/-- One character of a quoted text. -/
def quoteChar (c : Char) : List Char :=
  match c with
  | '\x00' => ['\\', '0']
  | '\t' => ['\\', 't']
  | '\r' => ['\\', 'r']
  | '\n' => ['\\', 'n']
  | '"' => ['\\', '"']
  | '\\' => ['\\', '\\']
  | c => if isVisible c then [c] else ['\\', 'u', '\x7b'] ++ lowerHex c.toNat ++ ['\x7d']

/-- The quoted text. -/
def quote (s : String) : String := String.ofList (['"'] ++ s.toList.flatMap quoteChar ++ ['"'])

/-- A list of quoted texts, between brackets. -/
def quoteList (xs : List String) : String := "[" ++ String.intercalate ", " (xs.map quote) ++ "]"

/-- A line that shows a structure: its name, then its fields with their values in words. -/
def record (name : String) (fields : List (String × String)) : String :=
  name ++ " \x7b " ++ String.intercalate ", " (fields.map fun f => f.1 ++ ": " ++ f.2) ++ " \x7d"

end ReadThrough.Text
