/-!
# Reading JSON

A JSON text is read into a tree. Strings are kept unread where they escape half of a surrogate pair
only: such a string is well formed, but it is no text.

## Main definitions

* `Json`: JSON trees
* `Json.parse? s`: the tree of a text, if the text is JSON
-/

namespace ReadThrough

/-- JSON trees. What no reader asks for, the value of a number, is left out. -/
inductive Json where
  /-- The literal `null`. -/
  | null
  /-- The literals `true` and `false`. -/
  | bool (b : Bool)
  /-- Some number. -/
  | number
  /-- A string; none if its escapes stand for no text. -/
  | string (s : Option String)
  /-- An array. -/
  | array (items : List Json)
  /-- An object, with its members in order. -/
  | object (members : List (Option String × Json))
  deriving Inhabited

namespace Json

/-- The text without white space in front. -/
def skip (cs : List Char) : List Char :=
  cs.dropWhile fun c => c == ' ' || c == '\n' || c == '\t' || c == '\r'

/-! ## Strings -/

/-- A character of a string, or a 16-bit unit written as an escape. -/
inductive Piece where
  /-- A character written as itself or by an escape of one letter. -/
  | char (c : Char)
  /-- A unit written by its number. -/
  | unit (n : Nat)

/-- The value of a hexadecimal digit. -/
def hexValue? (c : Char) : Option Nat :=
  if '0' ≤ c ∧ c ≤ '9' then some (c.toNat - '0'.toNat)
  else if 'a' ≤ c ∧ c ≤ 'f' then some (c.toNat - 'a'.toNat + 10)
  else if 'A' ≤ c ∧ c ≤ 'F' then some (c.toNat - 'A'.toNat + 10)
  else none

/-- The number written by four hexadecimal digits. -/
def hexNumber? (a b c d : Char) : Option Nat := do
  let a ← hexValue? a
  let b ← hexValue? b
  let c ← hexValue? c
  let d ← hexValue? d
  return ((a * 16 + b) * 16 + c) * 16 + d

/-- The character an escape of one letter stands for. -/
def letterEscape? : Char → Option Char
  | '"' => some '"'
  | '\\' => some '\\'
  | '/' => some '/'
  | 'b' => some '\x08'
  | 'f' => some '\x0C'
  | 'n' => some '\n'
  | 'r' => some '\r'
  | 't' => some '\t'
  | _ => none

/-- The pieces of a string up to its closing quote, and what follows. -/
def pieces : List Char → Option (List Piece × List Char)
  | [] => none
  | c :: rest =>
    if c = '"' then some ([], rest)
    else if c = '\\' then
      match rest with
      | [] => none
      | e :: rest =>
        if e = 'u' then
          match rest with
          | a :: b :: c :: d :: rest => do
            let n ← hexNumber? a b c d
            let (ps, rest) ← pieces rest
            return (.unit n :: ps, rest)
          | _ => none
        else do
          let c ← letterEscape? e
          let (ps, rest) ← pieces rest
          return (.char c :: ps, rest)
    else if c.toNat < 0x20 then none
    else do
      let (ps, rest) ← pieces rest
      return (.char c :: ps, rest)

/-- The number is the first half of a surrogate pair. -/
def isHigh (n : Nat) : Bool := 0xD800 ≤ n && n < 0xDC00

/-- The number is the second half of a surrogate pair. -/
def isLow (n : Nat) : Bool := 0xDC00 ≤ n && n < 0xE000

/-- The characters of the pieces, if every surrogate has its other half. -/
def characters? : List Piece → Option (List Char)
  | [] => some []
  | .char c :: rest => (characters? rest).map (c :: ·)
  | .unit n :: rest =>
    if isHigh n then
      match rest with
      | .unit m :: rest =>
        if isLow m then
          (characters? rest).map (Char.ofNat (0x10000 + (n - 0xD800) * 0x400 + (m - 0xDC00)) :: ·)
        else none
      | _ => none
    -- A second half has to follow a first one.
    else if isLow n then none
    else (characters? rest).map (Char.ofNat n :: ·)

/-- The string after an opening quote, and what follows. -/
def string? (cs : List Char) : Option (Option String × List Char) :=
  (pieces cs).map fun p => ((characters? p.1).map String.ofList, p.2)

/-! ## Numbers and literals -/

/-- What follows one or more digits. -/
def dropDigits? (cs : List Char) : Option (List Char) :=
  if cs.head?.any Char.isDigit then some (cs.dropWhile Char.isDigit) else none

/-- What follows the whole part of a number: a zero, or digits that do not begin with one. -/
def dropWhole? : List Char → Option (List Char)
  | '0' :: rest => if rest.head?.any Char.isDigit then none else some rest
  | cs => dropDigits? cs

/-- What follows the decimal places of a number. -/
def dropPlaces? : List Char → Option (List Char)
  | '.' :: rest => dropDigits? rest
  | cs => some cs

/-- What follows the exponent of a number. -/
def dropExponent? : List Char → Option (List Char)
  | [] => some []
  | c :: rest =>
    if c = 'e' ∨ c = 'E' then
      match rest with
      | [] => none
      | s :: digits => if s = '+' ∨ s = '-' then dropDigits? digits else dropDigits? rest
    else some (c :: rest)

/-- What follows a number. -/
def dropNumber? (cs : List Char) : Option (List Char) := do
  let cs := if cs.head? = some '-' then cs.tail else cs
  let cs ← dropWhole? cs
  let cs ← dropPlaces? cs
  dropExponent? cs

/-- What follows a literal. -/
def dropLiteral? : List Char → List Char → Option (List Char)
  | [], cs => some cs
  | _ :: _, [] => none
  | a :: literal, c :: cs => if a = c then dropLiteral? literal cs else none

/-! ## Trees -/

mutual

/-- A tree of nesting depth and breadth up to `n`, and what follows. -/
def value? : Nat → List Char → Option (Json × List Char)
  | 0, _ => none
  | n + 1, cs =>
    match skip cs with
    | [] => none
    | c :: rest =>
      if c = '"' then (string? rest).map fun p => (.string p.1, p.2)
      else if c = '[' then
        match skip rest with
        | ']' :: rest => some (.array [], rest)
        | rest => (items? n rest).map fun p => (.array p.1, p.2)
      else if c = '{' then
        match skip rest with
        | '}' :: rest => some (.object [], rest)
        | rest => (members? n rest).map fun p => (.object p.1, p.2)
      else if c = 'n' then
        (dropLiteral? ['u', 'l', 'l'] rest).map fun rest => (.null, rest)
      else if c = 't' then
        (dropLiteral? ['r', 'u', 'e'] rest).map fun rest => (.bool true, rest)
      else if c = 'f' then
        (dropLiteral? ['a', 'l', 's', 'e'] rest).map fun rest => (.bool false, rest)
      else (dropNumber? (c :: rest)).map fun rest => (.number, rest)

/-- The items of an array up to its closing bracket, and what follows. -/
def items? : Nat → List Char → Option (List Json × List Char)
  | 0, _ => none
  | n + 1, cs => do
    let (v, rest) ← value? n cs
    match skip rest with
    | ',' :: rest =>
      let (vs, rest) ← items? n rest
      return (v :: vs, rest)
    | ']' :: rest => return ([v], rest)
    | _ => none

/-- The members of an object up to its closing brace, and what follows. -/
def members? : Nat → List Char → Option (List (Option String × Json) × List Char)
  | 0, _ => none
  | n + 1, cs =>
    match skip cs with
    | '"' :: rest => do
      let (name, rest) ← string? rest
      match skip rest with
      | ':' :: rest =>
        let (v, rest) ← value? n rest
        match skip rest with
        | ',' :: rest =>
          let (ms, rest) ← members? n rest
          return ((name, v) :: ms, rest)
        | '}' :: rest => return ([(name, v)], rest)
        | _ => none
      | _ => none
    | _ => none

end

/-- The tree of a text that is JSON from end to end. Each level of nesting and each item takes up
a character, so twice their number bounds the recursion. -/
def parse? (s : String) : Option Json :=
  match value? (2 * s.length + 2) s.toList with
  | some (v, rest) => if (skip rest).isEmpty then some v else none
  | none => none

end Json

end ReadThrough
