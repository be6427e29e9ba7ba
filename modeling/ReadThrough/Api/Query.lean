import ReadThrough.Text.Json

/-!
# Lookup queries

A front-end request asks for a key, which is empty if it is not given, of a group, which may be left
to the server. It is written as a form-encoded query or as JSON. Names that mean nothing here are
passed over; a name that is given twice is refused.

## Main definitions

* `Query`: a key and possibly a group
* `Query.ofPairs ps`: the query in name and value pairs
* `Query.ofJson? j`: the query in a JSON object, or in an array with group and key in this order
-/

namespace ReadThrough

/-- A key to be looked up, in a group if one is named. -/
structure Query where
  /-- The group's name. -/
  group : Option String := none
  /-- The key. -/
  key : String := ""
  deriving DecidableEq, Repr

namespace Query

/-- The names a query gives its parts. -/
def fields : List String := ["group", "key"]

/-- The first field among `names` that is one of `seen` or has come before. -/
def repeatedField? (seen : List String) : List String → Option String
  | [] => none
  | name :: names =>
    if name ∈ fields ∧ name ∈ seen then some name else repeatedField? (name :: seen) names

/-- The query in name and value pairs, or the field that is given twice. -/
def ofPairs (ps : List (String × String)) : Except String Query :=
  match repeatedField? [] (ps.map (·.1)) with
  | some name => .error name
  | none => .ok ⟨ps.lookup "group", (ps.lookup "key").getD ""⟩

/-! ## JSON -/

/-- The group in a JSON value: a string, or none for `null`. -/
def groupOfJson? : Json → Option (Option String)
  | .null => some none
  | .string s => s.map some
  | _ => none

/-- The key in a JSON value. -/
def keyOfJson? : Json → Option String
  | .string s => s
  | _ => none

/-- The query in the members of a JSON object. -/
def ofMembers? (ms : List (Option String × Json)) : Option Query := do
  -- Every name is read, also one that means nothing here, and has to be text.
  let ms ← ms.mapM fun m => m.1.map fun name => (name, m.2)
  if (repeatedField? [] (ms.map (·.1))).isSome then none
  else
    let group ← ((ms.lookup "group").map groupOfJson?).getD (some none)
    let key ← ((ms.lookup "key").map keyOfJson?).getD (some "")
    return ⟨group, key⟩

/-- The query in a JSON object, or in an array of up to two items. -/
def ofJson? : Json → Option Query
  | .object ms => ofMembers? ms
  | .array [] => some {}
  | .array [g] => (groupOfJson? g).map fun group => { group }
  | .array [g, k] => do
    let group ← groupOfJson? g
    let key ← keyOfJson? k
    return ⟨group, key⟩
  | _ => none

/-- The query in a JSON text. -/
def parse? (s : String) : Option Query := (Json.parse? s).bind ofJson?

end Query

end ReadThrough
