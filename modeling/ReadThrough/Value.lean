import ReadThrough.Text.Utf8
import ReadThrough.Text.Quoted

/-!
# Values

A value is the bytes cached under a key. It is handed out whole and never changed in place.

## Main definitions

* `Value`: bytes as a cached value
* `Value.display v`, `Value.describe v`: the value as text, and in words
-/

namespace ReadThrough

/-- The bytes cached under a key. -/
structure Value where
  /-- The bytes. -/
  bytes : Bytes
  deriving DecidableEq, Repr

namespace Value

/-- The empty value. -/
def empty : Value := ⟨[]⟩

instance : Inhabited Value := ⟨empty⟩

/-- The encoding of a text as a value. -/
def ofText (s : String) : Value := ⟨Text.utf8 s⟩

/-- Number of bytes. -/
def size (v : Value) : Nat := v.bytes.length

/-- The value holds no byte. -/
def isEmpty (v : Value) : Bool := v.bytes.isEmpty

/-- The value read as text, with U+FFFD for what is none. -/
def display (v : Value) : String := Text.lossy v.bytes

/-- The value in words. -/
def describe (v : Value) : String := Text.record "Value" [("len", toString v.size)]

end Value

/-- A key with its value. -/
structure Entry where
  /-- The key. -/
  key : String
  /-- The value cached under it. -/
  value : Value
  deriving DecidableEq, Repr, Inhabited

/-- The bytes an entry is charged for: those of its key and those of its value. -/
def Entry.cost (e : Entry) : Nat := e.key.utf8ByteSize + e.value.size

end ReadThrough
