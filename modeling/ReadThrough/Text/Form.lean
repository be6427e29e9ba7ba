import ReadThrough.Text.Percent

/-!
# Form-encoded queries

A query is a list of `name=value` pairs separated by `&`. In names and values `+` stands for a
space and escapes are resolved afterwards; what is then no text has its flaws replaced. Empty
pieces are skipped, and a piece without `=` is a name with an empty value.

## Main definitions

* `component b`: the text of one name or value
* `pairs q`: the pairs of a query
-/

namespace ReadThrough.Text.Form

/-- The text of one name or value. -/
def component (b : Bytes) : String :=
  lossy (Percent.decode (b.map fun x => if x = 0x2B then 0x20 else x))

/-- One piece of a query as a name and a value. -/
def pair (b : Bytes) : String × String :=
  (component (b.takeWhile (· != 0x3D)), component ((b.dropWhile (· != 0x3D)).drop 1))

/-- The name and value pairs of a query, in order. -/
def pairs (q : Bytes) : List (String × String) :=
  ((q.splitOn 0x26).filter (· != [])).map pair

end ReadThrough.Text.Form
