import Mathlib
import ReadThrough.Proofs.Peer.Client
import ReadThrough.Proofs.Peer.Pool
import ReadThrough.Proofs.Peer.Server
import ReadThrough.Proofs.Registry

/-!
# Lookups at a peer

Let paths, status codes and bodies reach the other side as they were sent. Then asking a peer for a
key comes to the same as looking it up there: the client learns the value that the lookup ends in,
and whatever else becomes of the lookup is a fault of the peer. The peer changes by the lookup and by
the request that it counts.

## Main definitions

* `Client.lookup c server s group key`: a client asks a server for a key
* `Transparent group r direct remote`: a lookup of a client, compared with one at the node

## Main results

* `Client.accept_respond_eq_ok_iff`: what a client learns from the response to a lookup
* `Directory.lookup_of_known`, `Directory.lookup_of_unknown`: lookups at a peer, whatever keeps its
  groups
* `Registry.transparent_lookup`: lookups at a node
-/

namespace ReadThrough

/-! ## Clients and servers -/

/-- What comes of a request that is answered so, or not at all. -/
def Exchange.ofResponse : Option Response → Exchange
  | some ⟨status, _, .bytes body⟩ => .answered status body
  | some ⟨_, _, .document _⟩ => .lost
  | none => .lost

/-- A client asks a server in state `s` for a key: the server answers the path that the client asks
for, and the client learns something. -/
def Client.lookup {σ : Type} (c : Client) (server : σ → String → σ × Option Response) (s : σ)
    (group key : String) : σ × Except Fault Value :=
  ((server s (c.path group key)).1,
    c.fetch .plain (fun d => .ofResponse (server s d.path).2) group key)

/-- A client's lookup of a key at a node with the groups `r`, compared with a direct lookup there. -/
structure Transparent (group : String) (r : Registry) (direct : Registry × Option Outcome)
    (remote : Registry × Except Fault Value) : Prop where
  /-- The client learns the value that a direct lookup in the group comes to, and no other. -/
  value_iff : ∀ value, remote.2 = .ok value ↔
    (r.find? group).isSome ∧ direct.2 = some (.ok value)
  /-- Whatever else it learns is a fault of the peer. -/
  isPeer : ∀ fault, remote.2 = .error fault → fault.IsPeer
  /-- Every group is left as by a direct lookup, but that the one asked for has counted one request
  of a peer more. -/
  groups : ∀ name, remote.1.find? name = (direct.1.find? name).map fun m =>
    if name = group then
      { m with group := { m.group with counters :=
        { m.group.counters with serverRequests := m.group.counters.serverRequests + 1 } } }
    else m
  /-- There are the same groups, in the same order, -/
  names : remote.1.members.map (·.group.name) = direct.1.members.map (·.group.name)
  /-- and the same sources were asked. -/
  calls : remote.1.calls = direct.1.calls
  /-- If there is no such group, nothing changes. -/
  unknown : r.find? group = none → remote.1 = r

/-! ## Responses to lookups -/

namespace Client

variable {c : Client} {group key : String} {d : Dispatch}

/-- **A client learns what a lookup comes to** from the response to it: a value, if that was the
outcome. -/
theorem accept_respond_eq_ok_iff {outcome : Option Outcome}
    (hsize : ∀ value, outcome = some (.ok value) → value.bytes.length < 2 ^ 64) (value : Value) :
    c.accept group key d (.ofResponse (outcome.map PeerServer.respond)) = .ok value ↔
      outcome = some (.ok value) := by
  rcases outcome with - | fault | v
  · -- Without a response there is no value, and no answer either.
    constructor <;> exact nofun
  · constructor <;> exact nofun
  · have haccept : c.accept group key d
        (.ofResponse ((some (.ok v)).map PeerServer.respond)) = .ok v :=
      accept_respond (hsize v rfl)
    rw [haccept]
    constructor
    · intro h
      rw [Except.ok.inj h]
    · intro h
      rw [Except.ok.inj (Option.some.inj h)]

variable {σ : Type} {server server' : σ → String → σ × Option Response} {s : σ}

theorem lookup_eq (c : Client) (server : σ → String → σ × Option Response) (s : σ)
    (group key : String) : c.lookup server s group key =
      ((server s (c.path group key)).1, c.accept group key
        ⟨c.url group key, c.path group key, "", fun addr => addr == c.baseUrl⟩
        (.ofResponse (server s (c.path group key)).2)) := rfl

theorem isPeer_of_lookup {fault : Fault} (h : (c.lookup server s group key).2 = .error fault) :
    fault.IsPeer := by
  apply isPeer_of_fetch ?_ h
  -- The plain route takes every request.
  exact fun _ => nofun

/-- It is only its answer to the one path that matters. -/
theorem lookup_congr (h : server s (c.path group key) = server' s (c.path group key)) :
    c.lookup server s group key = c.lookup server' s group key := by
  rw [lookup_eq, lookup_eq, h]

end Client

/-! ## Lookups -/

namespace Directory

variable {σ : Type} {dir : Directory σ} {s : σ} {group : String}

/-- **A client learns of a known group what a lookup comes to**, and the lookup is made after a
request is counted. -/
theorem lookup_of_known (addr base : String) (hg : group ≠ "") (key : String)
    (hhas : dir.has s group = true)
    (hsize : ∀ value, (dir.get (dir.countRequest s group) group key).2 = some (.ok value) →
      value.bytes.length < 2 ^ 64) :
    ((Client.create addr base).lookup (PeerServer.serve dir base) s group key).1 =
        (dir.get (dir.countRequest s group) group key).1 ∧
      ∀ value,
        ((Client.create addr base).lookup (PeerServer.serve dir base) s group key).2 = .ok value ↔
          (dir.get (dir.countRequest s group) group key).2 = some (.ok value) := by
  have hpath : (Client.create addr base).path group key = PeerPath.render base group key := rfl
  rw [Client.lookup_eq, hpath, PeerServer.serve_render hg hhas]
  exact ⟨rfl, fun value => Client.accept_respond_eq_ok_iff hsize value⟩

/-- The response that there is no such group is no value, and changes nothing. -/
theorem lookup_of_unknown (addr base : String) (hg : group ≠ "") (key : String)
    (hhas : dir.has s group = false) :
    ((Client.create addr base).lookup (PeerServer.serve dir base) s group key).1 = s ∧
      ∀ value,
        ((Client.create addr base).lookup (PeerServer.serve dir base) s group key).2 ≠ .ok value := by
  have hpath : (Client.create addr base).path group key = PeerPath.render base group key := rfl
  rw [Client.lookup_eq, hpath, PeerServer.serve_render_of_unknown hg hhas]
  exact ⟨rfl, fun value => nofun⟩

end Directory

namespace Registry

variable {group : String}

/-- What a client's lookup at a node does: the direct lookup, and one request counted. -/
theorem lookup_eq (hg : group ≠ "") (key addr base : String) (r : Registry)
    (hsize : ∀ value, (r.get group key).2 = some (.ok value) → value.bytes.length < 2 ^ 64) :
    ((Client.create addr base).lookup (PeerServer.serve directory base) r group key).1 =
        (r.get group key).1.countRequest group ∧
      ∀ value, ((Client.create addr base).lookup (PeerServer.serve directory base) r group key).2 =
        .ok value ↔ (r.find? group).isSome ∧ (r.get group key).2 = some (.ok value) := by
  cases hfind : r.find? group with
  | some m =>
    have hhas : directory.has r group = true := by
      show (r.find? group).isSome = true
      rw [hfind]
      rfl
    -- The request is counted before the lookup, which makes no difference.
    have hget : directory.get (directory.countRequest r group) group key =
        ((r.get group key).1.countRequest group, (r.get group key).2) :=
      get_countRequest r group key
    have h := Directory.lookup_of_known addr base hg key hhas
    rw [hget] at h
    obtain ⟨hstate, hvalue⟩ := h hsize
    refine ⟨hstate, fun value => ?_⟩
    rw [hvalue]
    simp
  | none =>
    have hhas : directory.has r group = false := by
      show (r.find? group).isSome = false
      rw [hfind]
      rfl
    have hcount : r.countRequest group = r := by rw [countRequest, hfind]
    obtain ⟨hstate, hvalue⟩ := Directory.lookup_of_unknown addr base hg key hhas
    rw [get_of_unknown hfind, hcount]
    refine ⟨hstate, fun value => ?_⟩
    simp [hvalue value]

/-- **Lookups at a node are transparent.** Let client and node use the same base path, one that a
pool accepts. Then a client's lookup of a key comes to what a direct lookup in the node's group comes
to, and changes the groups of the node by that lookup and one request counted. The paths that a
client asks for are all routed to where lookups are answered.

The length of a value has to fit into a machine word. -/
theorem transparent_lookup {self : String} {options : Pool.Options} {pool : Pool}
    (hpool : Pool.create self options = .ok pool) (hg : group ≠ "") (key addr : String)
    (r : Registry)
    (hsize : ∀ value, (r.get group key).2 = some (.ok value) → value.bytes.length < 2 ^ 64) :
    Transparent group r (r.get group key)
      ((Client.create addr pool.options.basePath).lookup
        (PeerServer.serve directory pool.options.basePath) r group key) ∧
    (Client.create addr pool.options.basePath).lookup
        (fun r path => PeerServer.handle directory pool.options.basePath r ⟨"GET", ⟨path, ""⟩⟩)
        r group key =
      (Client.create addr pool.options.basePath).lookup
        (PeerServer.serve directory pool.options.basePath) r group key := by
  obtain ⟨hstate, hvalue⟩ := lookup_eq hg key addr pool.options.basePath r hsize
  constructor
  · constructor
    case value_iff => exact hvalue
    case isPeer => exact fun fault h => Client.isPeer_of_lookup h
    case groups =>
      intro name
      rw [hstate, find?_countRequest]
      rfl
    case names => rw [hstate, names_countRequest]
    case calls => rw [hstate, calls_countRequest]
    case unknown =>
      intro hnone
      rw [hstate, get_of_unknown hnone, countRequest, hnone]
  · apply Client.lookup_congr
    exact PeerServer.handle_eq_serve (Pool.isBasePath_of_create hpool)

/-- A group whose loader answers every key with its own bytes. -/
def mirror : Registry :=
  ⟨[⟨.create "a/b" 100 none, .ofLoader fun key => .now (.ok (.ofText key))⟩], []⟩

/-- What a client learns from the mirror about a key, and what this leaves there. -/
def mirrored (key : String) : Registry × Except Fault Value :=
  (Client.create "http://n/" PeerPath.defaultBase).lookup
    (PeerServer.serve directory PeerPath.defaultBase) mirror "a/b" key

/-- Names with slashes, percent signs and other characters that have to be encoded. The group has
counted the request of the peer beside the lookup. -/
theorem transparent_lookup_encoded :
    (mirrored "50%/é").2 = .ok (.ofText "50%/é") ∧
      ((mirrored "50%/é").1.find? "a/b").map (·.group.counters) =
        some { gets := 1, loads := 1, executions := 1, localLoads := 1, serverRequests := 1 } ∧
      (mirrored "50%/é").1.calls = [⟨"a/b", .loader, "50%/é"⟩] := by
  have hpool : Pool.create "http://n/" {} =
      .ok ⟨normalizeAddress "http://n/", {}, Pool.Options.ring {}, ∅⟩ :=
    Pool.create_of_isBasePath (by decide)
  have hvalue : (mirror.get "a/b" "50%/é").2 = some (.ok (.ofText "50%/é")) := by cbv
  have hcounters : ((mirror.get "a/b" "50%/é").1.find? "a/b").map (·.group.counters) =
      some { gets := 1, loads := 1, executions := 1, localLoads := 1 } := by cbv
  have hcalls : (mirror.get "a/b" "50%/é").1.calls = [⟨"a/b", .loader, "50%/é"⟩] := by cbv
  have hsize : ∀ value, (mirror.get "a/b" "50%/é").2 = some (.ok value) →
      value.bytes.length < 2 ^ 64 := by
    intro value h
    rw [hvalue] at h
    cases h
    decide
  have h : Transparent "a/b" mirror (mirror.get "a/b" "50%/é") (mirrored "50%/é") :=
    (transparent_lookup hpool (by decide : "a/b" ≠ "") "50%/é" "http://n/" mirror hsize).1
  refine ⟨(h.value_iff _).mpr ⟨rfl, hvalue⟩, ?_, h.calls.trans hcalls⟩
  obtain ⟨m, hm, hcounters⟩ := Option.map_eq_some_iff.mp hcounters
  rw [h.groups, hm, Option.map_some, Option.map_some, if_pos rfl]
  dsimp only
  rw [hcounters]

end Registry

end ReadThrough
