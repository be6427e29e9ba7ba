import ReadThrough.Http.Host.Basic
import ReadThrough.Text.Numeral

/-!
# Authorities of URLs

The authority of a URL says where it leads: to a host, perhaps at a port, and perhaps on behalf of a
user with a password.

## Main definitions

* `Credentials`, `Authority`: a user, and where a URL leads
* `Authority.parse?`: the authority at the start of a text, and what follows it
* `Authority.render a`: the text of an authority
-/

namespace ReadThrough.Url

/-- A user of a server, as written in a URL. -/
structure Credentials where
  /-- The name, with escapes. -/
  user : String
  /-- The password, with escapes, if there is one. -/
  password : Option String
  deriving DecidableEq, Repr

/-- Where a URL leads. -/
structure Authority where
  /-- On whose behalf, if that is said. -/
  credentials : Option Credentials
  /-- The host. -/
  host : Host
  /-- The port, unless it is the scheme's own. -/
  port : Option Nat
  deriving DecidableEq, Repr

/-- The parts before and after the first character that `p` holds of; the character itself belongs
to the second part. -/
def cut (p : Char → Bool) (cs : List Char) : List Char × List Char :=
  (cs.takeWhile fun c => !p c, cs.dropWhile fun c => !p c)

/-! ## Credentials -/

/-- A user and a password with a colon between them; neither if both are empty. -/
def Credentials.parse (cs : List Char) : Option Credentials :=
  let (user, password) := cut (· == ':') cs
  let text := fun cs => String.ofList (escape userSet cs)
  let password := if password.length ≤ 1 then none else some (text password.tail)
  if user.isEmpty && password.isNone then none else some ⟨text user, password⟩

/-- The text of credentials, as it stands before a host. -/
def Credentials.render (c : Credentials) : String :=
  c.user ++ (match c.password with
    | some password => ":" ++ password
    | none => "") ++ "@"

/-- What stands before the last `@` of an authority, if there is one, and what follows it. -/
def splitUser (text : List Char) : Option (List Char) × List Char :=
  match cut (· == '@') text.reverse with
  | (host, _ :: user) => (some user.reverse, host.reverse)
  | _ => (none, text)

/-! ## Hosts and ports -/

/-- The text of a host, which a colon outside brackets ends, and what follows it. -/
def splitHost : (inBrackets : Bool) → List Char → List Char × List Char
  | _, [] => ([], [])
  | inBrackets, c :: rest =>
    if c == ':' && !inBrackets then ([], c :: rest)
    else
      let (host, rest) := splitHost (c == '[' || (inBrackets && c != ']')) rest
      (c :: host, rest)

/-- The port that is named after a host, and what follows it. Only a backslash ends a port. -/
def parsePort? : List Char → Option (Option Nat × List Char)
  | _ :: text =>
    let (digits, rest) := cut (!·.isDigit) text
    if rest.head?.any (· != '\\') then none
    else if digits.isEmpty then some (none, rest)
    else do
      let port ← Text.Numeral.digits? digits
      if port < 65536 then some (some port, rest) else none
  | [] => some (none, [])

namespace Authority

/-- The authority at the start of a text, and what follows it. A URL of the web always has a host,
and so has one with a user or a port. -/
def parse? (isWeb : Bool) (ownPort : Option Nat) (cs : List Char) :
    Option (Authority × List Char) := do
  let isEnd := fun (c : Char) => c == '/' || c == '?' || c == '#' || (isWeb && c == '\\')
  let (text, path) := cut isEnd cs
  -- A lone `@` is no authority, unless the URL ends there.
  if text = ['@'] ∧ path ≠ [] then none
  else
    let (user, text) := splitUser text
    let credentials := user.bind Credentials.parse
    let (host, port) := splitHost false text
    if host.isEmpty && (isWeb || credentials.isSome || !port.isEmpty) then none
    else
      let host ← if isWeb then Host.parse? host else Host.parseOpaque? host
      let (port, rest) ← parsePort? port
      return (⟨credentials, host, if port = ownPort then none else port⟩, rest ++ path)

/-- The text of an authority. -/
def render (a : Authority) : String :=
  (match a.credentials with
    | some credentials => credentials.render
    | none => "") ++
    a.host.render ++
    (match a.port with
      | some port => ":" ++ toString port
      | none => "")

end Authority

end ReadThrough.Url
