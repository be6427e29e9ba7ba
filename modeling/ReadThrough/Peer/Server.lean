import ReadThrough.Http.Message
import ReadThrough.Peer.Envelope
import ReadThrough.Peer.Path
import ReadThrough.Registry

/-!
# The peer server

A node answers its peers on every path that begins with the base path and goes on after it. A
segment of the base path may end in a name after a colon, which stands for anything. The value of
the key is sent in an envelope; any fault is sent as text.

## Main definitions

* `Directory`: groups as the server sees them
* `PeerServer.serve`: the answer to a path
* `PeerServer.handle`: the answer to a request
-/

namespace ReadThrough

/-- Groups as a server sees them, in a state that lookups change. -/
structure Directory (σ : Type) where
  /-- There is a group with this name. -/
  has : σ → String → Bool
  /-- Counts a peer request for a group. -/
  countRequest : σ → String → σ
  /-- Looks a key up in a group; no answer if the lookup is stuck. -/
  get : σ → String → String → σ × Option Outcome

/-- The groups of a registry. -/
def Registry.directory : Directory Registry :=
  ⟨fun r name => (r.find? name).isSome, Registry.countRequest, Registry.get⟩

namespace PeerServer

/-- The response that carries the outcome of a lookup. -/
def respond : Outcome → Response
  | .ok value => .ofBytes (Envelope.encode value.bytes)
  | .error fault => .ofText 500 fault.message

/-- The answer to a path: none if the lookup is stuck. -/
def serve {σ : Type} (dir : Directory σ) (base : String) (s : σ) (path : String) :
    σ × Option Response :=
  match PeerPath.parse base path with
  | .error fault => (s, some (.ofText 400 fault.message))
  | .ok (group, key) =>
    if dir.has s group then
      let (s, outcome) := dir.get (dir.countRequest s group) group key
      (s, outcome.map respond)
    else (s, some (.ofText 404 ("no such group: " ++ group)))

/-! ## Routing -/

/-- A segment of a path fits a segment of the base path. -/
def segmentFits : List Char → List Char → Bool
  | [], s => s.isEmpty
  | ':' :: _, _ => true
  | _ :: _, [] => false
  | a :: pattern, c :: s => a == c && segmentFits pattern s

/-- What is left of the segments of a path after those of the base path. -/
def afterSegments? : List (List Char) → List (List Char) → Option (List (List Char))
  | [], segments => some segments
  | _ :: _, [] => none
  | p :: patterns, s :: segments =>
    if segmentFits p s then afterSegments? patterns segments else none

/-- The path begins with the base path and goes on after it. -/
def fits (base path : String) : Bool :=
  -- Behind its last slash the base path has an empty segment, which stands for what goes on.
  match afterSegments? (base.toList.splitOn '/').dropLast (path.toList.splitOn '/') with
  | some rest => rest != [] && rest != [[]]
  | none => false

/-- The answer to a request: none if the lookup is stuck. -/
def handle {σ : Type} (dir : Directory σ) (base : String) (s : σ) (req : Request) :
    σ × Option Response :=
  if fits base req.target.path then
    if req.method = "GET" then serve dir base s req.target.path
    else if req.method = "HEAD" then
      let (s, response) := serve dir base s req.target.path
      (s, response.map (·.withoutBody))
    else (s, some .methodNotAllowed)
  else (s, some .notFound)

end PeerServer

end ReadThrough
