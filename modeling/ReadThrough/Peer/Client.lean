import ReadThrough.Http.Status
import ReadThrough.Http.Url.Basic
import ReadThrough.Peer.Envelope
import ReadThrough.Peer.Path
import ReadThrough.Value

/-!
# Clients

A client asks one peer for keys. Whatever goes wrong on the way, at the peer or with what it
answers is a fault of the peer.

How a request travels is the business of a route. The plain route takes the path as it is written to
the address it is written behind; the web route sends the request to the URL that both make, which
may lead to another path.

## Main definitions

* `Client`: how to reach a peer
* `Client.url c group key`: the URL that asks for a key
* `Route`, `Route.plain`, `Route.web`: where requests go
* `Exchange`, `Client.accept`: what comes of a request, and what the client makes of it
* `Client.fetch`: the value of a key, as the peer answers
-/

namespace ReadThrough

/-- An address without its trailing slashes. -/
def normalizeAddress (addr : String) : String :=
  String.ofList ((addr.toList.reverse.dropWhile (· == '/')).reverse)

/-- How to reach one peer. -/
structure Client where
  /-- The peer's address, without trailing slashes. -/
  baseUrl : String
  /-- The base path of the peer protocol. -/
  basePath : String
  deriving DecidableEq, Repr

namespace Client

/-- The client for the peer at an address. -/
def create (addr basePath : String) : Client := ⟨normalizeAddress addr, basePath⟩

/-- The path that asks the peer for a key of a group. -/
def path (c : Client) (group key : String) : String := PeerPath.render c.basePath group key

/-- The URL that asks the peer for a key of a group. -/
def url (c : Client) (group key : String) : String := c.baseUrl ++ c.path group key

/-- The fault of a request that has no answer. -/
def failure (c : Client) (group key reason : String) : Fault :=
  .peer ("request to " ++ c.url group key ++ " failed: " ++ reason)

end Client

/-! ## Routes -/

/-- A request on its way. -/
structure Dispatch where
  /-- The URL it was sent to. -/
  url : String
  /-- The path it asks for, as the server sees it. -/
  path : String
  /-- The query, as the server sees it. -/
  query : String
  /-- It was sent to the server at this address. -/
  isFor : String → Bool

/-- Where a client's request for a key of a group goes, if it can be sent. -/
abbrev Route := Client → String → String → Except Fault Dispatch

namespace Route

/-- Every request goes to the client's address and asks for the path as it is written. -/
def plain : Route := fun c group key =>
  .ok ⟨c.url group key, c.path group key, "", fun addr => addr == c.baseUrl⟩

/-- The dispatch to a parsed URL. -/
def dispatch (u : Url) : Dispatch :=
  ⟨u.render, u.path, u.query.getD "", fun addr => (Url.parse? (addr ++ "/")).any (u.sameServer ·)⟩

/-- Every request goes to the URL the client asks for, which has to be one of the web; a user it
names is left out. -/
def web : Route := fun c group key =>
  match (Url.parse? (c.url group key)).map (·.withoutUser) with
  | none => .error (c.failure group key "builder error")
  | some u =>
    if u.isReachable then .ok (dispatch u)
    else .error (c.failure group key ("builder error for url (" ++ u.render ++ ")"))

end Route

/-! ## Exchanges -/

/-- What comes of a request. -/
inductive Exchange where
  /-- A status and a body. -/
  | answered (status : Nat) (body : Bytes)
  /-- A status, and a body that breaks off for a reason. -/
  | broken (status : Nat) (reason : String)
  /-- No answer. -/
  | lost
  deriving DecidableEq, Repr

namespace Client

/-- The fault of an answer that is no success. -/
def refusal (c : Client) (status : Nat) : Fault :=
  .peer (c.baseUrl ++ " returned: " ++ Status.describe status)

/-- What the client makes of an exchange. -/
def accept (c : Client) (group key : String) (d : Dispatch) : Exchange → Except Fault Value
  | .lost => .error (c.failure group key ("error sending request for url (" ++ d.url ++ ")"))
  | .broken status reason =>
    -- The body is read only if there is something to read in it.
    if Status.isSuccess status then .error (.peer ("reading response body: " ++ reason))
    else .error (c.refusal status)
  | .answered status body =>
    if Status.isSuccess status then
      match Envelope.decode body with
      | .ok bytes => .ok ⟨bytes⟩
      | .error fault => .error (.peer fault.message)
    else .error (c.refusal status)

/-- The value of a key, if requests go where `route` says and end as `send` says. -/
def fetch (c : Client) (route : Route) (send : Dispatch → Exchange) (group key : String) :
    Except Fault Value := do
  let d ← route c group key
  c.accept group key d (send d)

end Client

end ReadThrough
