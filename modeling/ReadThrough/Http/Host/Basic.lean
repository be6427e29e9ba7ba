import ReadThrough.Domain.Basic
import ReadThrough.Http.Host.Ip4
import ReadThrough.Http.Host.Ip6
import ReadThrough.Http.Url.Escape

/-!
# Hosts

The host of a URL is a name or an internet address. In the URLs of the web and of files a name is a
domain name, whose escapes are resolved; elsewhere a name is any text without the characters that
have a meaning in a URL, and its case matters.

## Main definitions

* `Host`: a name or an address
* `Host.parse? cs`: the host of a URL of the web or of a file
* `Host.parseOpaque? cs`: the host of another URL
* `Host.render h`: the text of a host
-/

namespace ReadThrough

/-- A name or an internet address. -/
inductive Host where
  /-- A name. -/
  | name (text : String)
  /-- An address of four bytes. -/
  | ip4 (address : Ip4)
  /-- An address of eight pieces. -/
  | ip6 (address : Ip6)
  deriving DecidableEq, Repr

namespace Host

/-- The address that stands between brackets; `rest` follows the first one. -/
def parseBracketed? (rest : List Char) : Option Host :=
  if rest.getLast? = some ']' then (Ip6.parse? rest.dropLast).map .ip6 else none

/-- The host of a URL of the web or of a file. -/
def parse? : List Char → Option Host
  | '[' :: rest => parseBracketed? rest
  | cs => do
    let text ← Text.ofUtf8? (Text.Percent.decode (Text.utf8 (String.ofList cs)))
    let name ← Domain.toAscii? text.toList
    let labels := name.splitOn '.'
    if name = [] then none
    else if Ip4.isMeant labels then (Ip4.parse? labels).map .ip4
    else some (.name (String.ofList name))

/-- The characters with a meaning in any URL. -/
def isReserved (c : Char) : Bool :=
  c ∈ ['\x00', '\t', '\n', '\r', ' ', '#', '/', ':', '<', '>', '?', '@', '[', '\\', ']', '^', '|']

/-- The host of a URL that is neither of the web nor of a file. -/
def parseOpaque? : List Char → Option Host
  | '[' :: rest => parseBracketed? rest
  | cs =>
    if cs.any isReserved then none
    else some (.name (String.ofList (Url.escape Url.controls cs)))

/-- The text of a host. -/
def render : Host → String
  | .name text => text
  | .ip4 address => address.render
  | .ip6 address => "[" ++ address.render ++ "]"

/-- The host that is not named. -/
def unnamed : Host := .name ""

end Host

end ReadThrough
