import ReadThrough.Http.Url.Authority
import ReadThrough.Http.Url.Path

/-!
# URLs

A client parses a URL before it sends a request. Parsing lowers the case of the scheme, gives the
host its plain form, drops the scheme's own port, escapes what may not stand where it does, and
resolves the segments `.` and `..`; escapes that are already there are left alone.

The schemes of the web and of files have hosts of the internet, and take a backslash for a slash. A
URL of the web has a host however many slashes stand before it. The URL of a file need not name one,
and its path may begin with a drive. Any other URL may have a path without segments.

## Main definitions

* `Url`: a parsed URL
* `Url.parse? s`: the URL a text is
* `Url.render u`: the text of a URL
* `Url.isReachable u`, `Url.sameServer u v`: a request can be sent there; both lead to one server
* `Url.withoutUser u`: the URL that a request is sent to
-/

namespace ReadThrough

/-- A parsed URL. -/
structure Url where
  /-- The scheme, in lower case. -/
  scheme : String
  /-- Where it leads, if it leads to a host. -/
  authority : Option Url.Authority
  /-- The path. -/
  path : String
  /-- The query, if there is one. -/
  query : Option String
  /-- The fragment, if there is one. -/
  fragment : Option String
  deriving DecidableEq, Repr

namespace Url

/-! ## Schemes -/

/-- The schemes of the web with their own ports. -/
def webPort? (scheme : String) : Option Nat :=
  [("http", 80), ("https", 443), ("ws", 80), ("wss", 443), ("ftp", 21)].lookup scheme

/-- The scheme of a text, in lower case, and what follows its colon. -/
def parseScheme? (cs : List Char) : Option (String × List Char) :=
  match cut (· == ':') cs with
  | (scheme, ':' :: rest) =>
    if scheme.head?.any Char.isAlpha &&
        scheme.all fun c => c.isAlphanum || c == '+' || c == '-' || c == '.' then
      some (String.ofList (scheme.map Char.toLower), rest)
    else none
  | _ => none

/-! ## Authorities and paths -/

/-- The character separates segments in URLs of the web and of files. -/
def isSlash (c : Char) : Bool := c == '/' || c == '\\'

/-- The character ends a path. -/
def endsPath (c : Char) : Bool := c == '?' || c == '#'

/-- The authority and the path of a URL of the web, and what follows them. -/
def parseWeb? (port : Nat) (cs : List Char) : Option (Option Authority × String × List Char) := do
  let (authority, rest) ← Authority.parse? true (some port) (cs.dropWhile isSlash)
  let (path, rest) := cut endsPath rest
  return (some authority, parsePath isSlash path, rest)

/-- The host and the segments of a file, where two slashes came before the text. A name that reads
like a drive is no host; nor are an empty one and the file's own machine, which leave an empty
segment. -/
def parseFileHost? (cs : List Char) : Option (Host × List (List Char)) :=
  let (name, path) := cut isSlash cs
  if isDrive name then some (Host.unnamed, segments isSlash cs)
  else do
    let host ← if name.isEmpty then some Host.unnamed else Host.parse? name
    if host = Host.unnamed ∨ host = .name "localhost" then
      some (Host.unnamed, [] :: segments isSlash path)
    else some (host, segments isSlash path)

/-- The authority and the path of the URL of a file, and what follows them. The path may name a
drive, which is on no other host. -/
def parseFile? (cs : List Char) : Option (Option Authority × String × List Char) := do
  let (text, rest) := cut endsPath cs
  let (host, segments) ← match text with
    | c :: d :: inside =>
      if isSlash c && isSlash d then parseFileHost? inside
      else some (Host.unnamed, segments isSlash text)
    | text => some (Host.unnamed, segments isSlash text)
  let (path, hasDrive) := parseFilePath segments
  return (some ⟨none, if hasDrive then Host.unnamed else host, none⟩, path, rest)

/-- The authority and the path of any other URL, and what follows them. -/
def parseOther? (cs : List Char) : Option (Option Authority × String × List Char) :=
  match cs with
  | '/' :: '/' :: rest => do
    let (authority, rest) ← Authority.parse? false none rest
    let (path, rest) := cut endsPath rest
    return (some authority, if path = [] then "" else parsePath (· == '/') path, rest)
  | '/' :: _ =>
    let (path, rest) := cut endsPath cs
    some (none, parsePath (· == '/') path, rest)
  | _ =>
    let (path, rest) := cut endsPath cs
    some (none, String.ofList (escape controls path), rest)

/-! ## URLs -/

/-- A text without white space and controls at its ends, tabs and line ends. -/
def clean (cs : List Char) : List Char :=
  let atEnd := fun (c : Char) => c.toNat ≤ 0x20
  ((cs.dropWhile atEnd).reverse.dropWhile atEnd).reverse.filter fun c =>
    c != '\t' && c != '\n' && c != '\r'

/-- The URL that a text is. -/
def parse? (s : String) : Option Url := do
  let (scheme, rest) ← parseScheme? (clean s.toList)
  let isOther := webPort? scheme = none ∧ scheme ≠ "file"
  let (authority, path, rest) ← match webPort? scheme with
    | some port => parseWeb? port rest
    | none => if scheme = "file" then parseFile? rest else parseOther? rest
  let (query, fragment) := cut (· == '#') rest
  let text := fun set (cs : List Char) => cs.head?.map fun _ => String.ofList (escape set cs.tail)
  return {
    scheme, authority, path
    query := text (if isOther then querySet else webQuerySet) query
    fragment := text fragmentSet fragment }

/-- The text of a URL. Without authority a path does not begin with two slashes, for what follows
would be taken for one. -/
def render (u : Url) : String :=
  u.scheme ++ ":" ++
    (match u.authority with
      | some authority => "//" ++ authority.render
      | none => if u.path.startsWith "//" then "/." else "") ++
    u.path ++
    (match u.query with
      | some q => "?" ++ q
      | none => "") ++
    (match u.fragment with
      | some f => "#" ++ f
      | none => "")

/-! ## Requests -/

/-- The longest URL that a request can be sent to, in bytes. -/
def maxSize : Nat := 65534

/-- A request can be sent there: the scheme is that of web pages, the URL is not too long, and the
name of the host has no quote or brace. -/
def isReachable (u : Url) : Bool :=
  (u.scheme == "http" || u.scheme == "https") && u.render.utf8ByteSize ≤ maxSize &&
    u.authority.any fun a =>
      a.host.render.toList.all fun c => c ∉ ['"', '\x60', '\x7b', '\x7d']

/-- The two URLs lead to the same server. -/
def sameServer (u v : Url) : Bool :=
  u.scheme == v.scheme &&
    (u.authority.map fun a => (a.host, a.port)) == v.authority.map fun a => (a.host, a.port)

/-- The text behind escapes, if it is one. -/
def unescape? (s : String) : Option String := Text.ofUtf8? (Text.Percent.decode (Text.utf8 s))

/-- The credentials are sent along with a request, not in its URL: the name is a text, and there is
a name or a password that is a text too. -/
def Credentials.areSent (c : Credentials) : Bool :=
  (unescape? c.user).isSome && (c.user != "" || (c.password.bind unescape?).isSome)

/-- The URL that a request is sent to. -/
def withoutUser (u : Url) : Url :=
  { u with authority := u.authority.map fun a =>
      { a with credentials := a.credentials.filter fun c => !c.areSent } }

example : (parse? "HTTP://u:p@Host:80/a/../b c?d#e").map render =
    some "http://u:p@host/b%20c?d#e" := by
  decide +kernel

end Url

end ReadThrough
