import ReadThrough.Text.Percent

/-!
# Escapes in URLs

Each part of a URL has its own set of bytes that may not stand there and are escaped. Escapes that
are there already are left alone, so no set contains `%`.

## Main definitions

* `controls`, `fragmentSet`, `querySet`, `webQuerySet`, `pathSet`, `userSet`: the bytes escaped in
  each part
* `escape set cs`: a text with the bytes of a set escaped
-/

namespace ReadThrough.Url

/-- Bytes that are escaped. -/
abbrev EscapeSet := UInt8 → Bool

/-- The bytes that no part contains: controls, and all outside ASCII. They alone are escaped in a
host, and in a path without segments. -/
def controls : EscapeSet := fun b => b < 0x20 || 0x7E < b

/-- The bytes escaped in a fragment. -/
def fragmentSet : EscapeSet := fun b => controls b || b ∈ [0x20, 0x22, 0x3C, 0x3E, 0x60]

/-- The bytes escaped in a query. -/
def querySet : EscapeSet := fun b => controls b || b ∈ [0x20, 0x22, 0x23, 0x3C, 0x3E]

/-- The bytes escaped in the query of a URL of the web or of a file. -/
def webQuerySet : EscapeSet := fun b => querySet b || b == 0x27

/-- The bytes escaped in a segment of a path. -/
def pathSet : EscapeSet := fun b => fragmentSet b || b ∈ [0x23, 0x3F, 0x7B, 0x7D]

/-- The bytes escaped in a user name or a password. -/
def userSet : EscapeSet := fun b =>
  pathSet b || b ∈ [0x2F, 0x3A, 0x3B, 0x3D, 0x40, 0x5B, 0x5C, 0x5D, 0x5E, 0x7C]

/-- The text with the bytes of a set escaped. -/
def escape (set : EscapeSet) (cs : List Char) : List Char :=
  (Text.utf8 (String.ofList cs)).flatMap fun b =>
    if set b then
      ['%', Char.ofNat (Text.Percent.digit (b / 16)).toNat,
        Char.ofNat (Text.Percent.digit (b % 16)).toNat]
    else [Char.ofNat b.toNat]

end ReadThrough.Url
