import ReadThrough.Proofs.Group.Counts
import ReadThrough.Proofs.Group.Lookup
import ReadThrough.Proofs.Peer.Client
import ReadThrough.Proofs.Peer.Pool

/-!
# Trouble with peers

A group without a limit asks the peer that owns a key, and waits for what the client makes of the
peer's answer. If that is a value, it is the answer of the lookup. If not, it is a fault of the peer,
whatever went wrong; the group counts it, asks its loader and answers as the loader does. So nobody
who looks up a key learns of trouble with a peer.

## Main definitions

* `Surroundings.ofPool pool group send delay loader`: peers that are picked by a pool
* `Absorbs client send loaded g key after`: what a lookup makes of a peer's answer

## Main results

* `Group.get_of_peer_value`, `Group.get_of_peer_fault`: a lookup after a peer's answer
* `Group.absorbs_peer`: trouble with a peer stays with the group
-/

namespace ReadThrough

/-- What a source answers in the end, if anything. -/
def Reply.outcome? : Reply → Option Outcome
  | .now outcome => some outcome
  | .later _ outcome => some outcome
  | .never => none

/-! ## Groups without a limit -/

namespace Group

variable {g : Group} {w : Surroundings} {key name : String} {reply : Reply}
  {outcome : Outcome} {value : Value} {fault : Fault} {elapsed : Nat}

/-- Without a limit an answer counts whenever it comes. -/
theorem resume_of_outcome (hlimit : g.limit = none) (h : reply.outcome? = some outcome)
    (key : String) (side : Side) (elapsed : Nat) :
    ∃ since, g.resume key side elapsed reply = g.deliver key side since outcome := by
  cases reply with
  | now answer =>
    cases h
    exact ⟨elapsed, rfl⟩
  | later ms answer =>
    cases h
    refine ⟨elapsed + ms, ?_⟩
    rw [resume, hlimit]
  | never => cases h

/-- Without a limit a lookup that asks the loader comes to what the loader answers. -/
theorem outcome?_resume_loader (hlimit : g.limit = none) :
    (g.resume key .loader elapsed reply).2.outcome? = reply.outcome? := by
  cases h : reply.outcome? with
  | some outcome =>
    obtain ⟨since, he⟩ := resume_of_outcome hlimit h key .loader elapsed
    rw [he, deliver_loader]
    rfl
  | none =>
    cases reply with
    | never =>
      rw [resume, hlimit]
      rfl
    | _ => cases h

/-! ### Troubles counted -/

theorem peerErrors_missed (hk : key ≠ "") :
    (g.missed key).counters.peerErrors = g.counters.peerErrors := by
  rw [missed, lookAgain_counters, look_counters hk]
  split <;> split <;> rfl

theorem peerErrors_deliver_loader :
    (g.deliver key .loader elapsed outcome).1.counters.peerErrors = g.counters.peerErrors := by
  rw [deliver_loader]
  cases outcome <;> rfl

theorem peerErrors_resume_loader :
    (g.resume key .loader elapsed reply).1.counters.peerErrors = g.counters.peerErrors := by
  unfold resume
  split
  · exact peerErrors_deliver_loader
  · split
    · split
      · rfl
      · exact peerErrors_deliver_loader
    · exact peerErrors_deliver_loader
  · split <;> rfl

/-! ### After a peer's answer -/

/-- A lookup of what the store does not have asks the owner of the key first. -/
theorem get_of_owner (hpeers : g.hasPeers = true) (hk : key ≠ "") (habsent : g.store.find? key = none)
    (howner : w.owner? key = some name) :
    g.get w key = (g.missed key).finish w key 2 (.asks (.peer name) 0) := by
  rw [get_of_absent w hk habsent, howner, firstSide_some hpeers]

section Answers

variable (hpeers : g.hasPeers = true) (hlimit : g.limit = none) (hk : key ≠ "")
  (habsent : g.store.find? key = none) (howner : w.owner? key = some name)

include hpeers hlimit hk habsent howner

/-- **A value of the peer** is the answer of the lookup. -/
theorem get_of_peer_value (hreply : (w.ask (.peer name) key).outcome? = some (.ok value)) :
    g.get w key = (((g.missed key).receive key (.peer name) (.ok value)).1, some (.ok value),
      [.peer name]) := by
  have hlimit' : (g.missed key).limit = none :=
    (limit_of_setup setup_missed).trans hlimit
  obtain ⟨since, he⟩ := resume_of_outcome hlimit' hreply key (.peer name) 0
  rw [get_of_owner hpeers hk habsent howner, finish, he]
  rfl

/-- **Trouble with the peer** is counted, and the lookup comes to what the loader answers. -/
theorem get_of_peer_fault (hreply : (w.ask (.peer name) key).outcome? = some (.error fault))
    (hfault : fault.recoverable = true) :
    (g.get w key).2 = ((w.ask .loader key).outcome?, [.peer name, .loader]) ∧
      (g.get w key).1.counters.peerErrors = g.counters.peerErrors + 1 := by
  have hlimit' : (g.missed key).limit = none :=
    (limit_of_setup setup_missed).trans hlimit
  obtain ⟨since, he⟩ := resume_of_outcome hlimit' hreply key (.peer name) 0
  have hdeliver : (g.missed key).deliver key (.peer name) since (.error fault) =
      ((g.missed key).record .peerErrors, .asks .loader since) := by
    rw [deliver, receive, if_pos hfault]
  rw [get_of_owner hpeers hk habsent howner, finish, he, hdeliver]
  dsimp only
  rw [finish_loader]
  constructor
  · have hcounted : ((g.missed key).record .peerErrors).limit = none := hlimit'
    rw [outcome?_resume_loader hcounted]
  · rw [peerErrors_resume_loader]
    exact congrArg (· + 1) (peerErrors_missed hk)

end Answers

end Group

/-! ## Peers of a pool -/

/-- The surroundings of a group whose peers a pool picks. A request ends as `send` says, after so
many milliseconds. -/
def Surroundings.ofPool (pool : Pool) (group : String) (send : Dispatch → Exchange) (delay : Nat)
    (loader : Loader) : Surroundings where
  owner? key := (pool.pick? key).map (·.baseUrl)
  ask
    | .loader, key => loader key
    | .peer _, key =>
      match pool.pick? key with
      | some client => .later delay (client.fetch .web send group key)
      | none => .never

namespace Surroundings

variable {pool : Pool} {client : Client} {group key name : String} {send : Dispatch → Exchange}
  {delay : Nat} {loader : Loader}

theorem owner?_ofPool (h : pool.pick? key = some client) :
    (ofPool pool group send delay loader).owner? key = some client.baseUrl :=
  congrArg (Option.map _) h

theorem outcome?_ask_ofPool (h : pool.pick? key = some client) :
    ((ofPool pool group send delay loader).ask (.peer name) key).outcome? =
      some (client.fetch .web send group key) := by
  dsimp only [ofPool]
  rw [h]
  rfl

end Surroundings

/-- What a lookup makes of the answer of the peer that `client` asks, if its loader answers
`loaded`. -/
structure Absorbs (client : Client) (send : Dispatch → Exchange) (loaded : Reply) (g : Group)
    (key : String) (after : Group × Option Outcome × List Side) : Prop where
  /-- The client learns a value from a successful answer that holds it, and from nothing else. -/
  value_iff : ∀ value, client.fetch .web send g.name key = .ok value ↔ ∃ d status body,
    Route.web client g.name key = .ok d ∧ send d = .answered status body ∧
      Status.isSuccess status ∧ Envelope.decode body = .ok value.bytes
  /-- All else is a fault of the peer. -/
  isPeer : ∀ fault, client.fetch .web send g.name key = .error fault → fault.IsPeer
  /-- A value is the answer of the lookup, and the loader is not asked. -/
  served : ∀ value, client.fetch .web send g.name key = .ok value →
    after.2 = (some (.ok value), [.peer client.baseUrl])
  /-- After a fault the loader is asked, once, and its answer is that of the lookup. -/
  fallen : ∀ fault, client.fetch .web send g.name key = .error fault →
    after.2 = (loaded.outcome?, [.peer client.baseUrl, .loader])
  /-- A fault is counted. -/
  counted : ∀ fault, client.fetch .web send g.name key = .error fault →
    after.1.counters.peerErrors = g.counters.peerErrors + 1
  /-- A lookup that ends in a fault ends in the loader's. -/
  own : ∀ fault, after.2.1 = some (.error fault) →
    .loader ∈ after.2.2 ∧ loaded.outcome? = some (.error fault)

/-- **Trouble with a peer stays with the group.** Let a group without a limit have a pool for its
peers, and look up a key that it has not stored and that belongs to another node of the pool. Then,
whatever comes of the request to that node, and whatever the loader answers, the lookup absorbs it. -/
theorem Group.absorbs_peer {g : Group} {p : Pool} {addrs : List String} {key a : String}
    (hpeers : g.hasPeers = true) (hlimit : g.limit = none) (hk : key ≠ "")
    (habsent : g.store.find? key = none) (howner : (p.set addrs).ring.owner? key = some a)
    (hremote : a ≠ p.self) (send : Dispatch → Exchange) (delay : Nat) (loader : Loader) :
    Absorbs (Client.create a p.options.basePath) send (loader key) g key
      (g.get (.ofPool (p.set addrs) g.name send delay loader) key) := by
  have hpick : (p.set addrs).pick? key = some (Client.create a p.options.basePath) := by
    rw [Pool.pick?_set, howner, Option.bind_some, if_neg hremote]
  generalize Client.create a p.options.basePath = client at hpick ⊢
  -- What the pool picks is asked first, and nothing else but a value or a fault of it comes of that.
  have hside : (Surroundings.ofPool (p.set addrs) g.name send delay loader).owner? key =
      some client.baseUrl := Surroundings.owner?_ofPool hpick
  have hask : ((Surroundings.ofPool (p.set addrs) g.name send delay loader).ask
      (.peer client.baseUrl) key).outcome? = some (client.fetch .web send g.name key) :=
    Surroundings.outcome?_ask_ofPool hpick
  have hpeer : ∀ fault, client.fetch .web send g.name key = .error fault → fault.IsPeer := by
    intro fault h
    exact Client.isPeer_of_fetch (fun _ => Route.isPeer_of_web) h
  have hvalue : ∀ value, client.fetch .web send g.name key = .ok value →
      (g.get (.ofPool (p.set addrs) g.name send delay loader) key).2 =
        (some (.ok value), [.peer client.baseUrl]) := by
    intro value h
    rw [h] at hask
    rw [get_of_peer_value hpeers hlimit hk habsent hside hask]
  have hfault : ∀ fault, client.fetch .web send g.name key = .error fault →
      (g.get (.ofPool (p.set addrs) g.name send delay loader) key).2 =
        ((loader key).outcome?, [.peer client.baseUrl, .loader]) ∧
      (g.get (.ofPool (p.set addrs) g.name send delay loader) key).1.counters.peerErrors =
        g.counters.peerErrors + 1 := by
    intro fault h
    rw [h] at hask
    exact get_of_peer_fault hpeers hlimit hk habsent hside hask (hpeer fault h).recoverable
  refine ⟨fun _ => Client.fetch_eq_ok_iff, hpeer, hvalue, fun fault h => (hfault fault h).1,
    fun fault h => (hfault fault h).2, ?_⟩
  -- Whatever the client learns, the lookup has no fault but the loader's.
  intro fault h
  cases hfetch : client.fetch .web send g.name key with
  | ok value =>
    rw [hvalue value hfetch] at h
    cases h
  | error fault' =>
    have hafter := (hfault fault' hfetch).1
    rw [hafter] at h ⊢
    exact ⟨by simp, h⟩

namespace Group

/-- The pool of a node on whose ring all points fall together. -/
def pooled : Pool :=
  ⟨"http://a", { replicas := 1, hash := some (Hash.constant 0) }, .empty 1 (Hash.constant 0), ∅⟩

/-- A group with nothing stored that has peers. -/
def registered (name : String) : Group := { Group.create name 100 none with hasPeers := true }

/-- A lookup in a group whose loader knows of no key, if requests to its one peer end as `send`
says. -/
def lookupBeside (send : Dispatch → Exchange) : Group × Option Outcome × List Side :=
  (registered "g").get (.ofPool (pooled.set ["http://b/"]) "g" send 3
    fun key => .now (.error (.notFound key))) "k"

/-- A peer that announces more bytes than there can be, and sends none. -/
def boast : Dispatch → Exchange := fun _ => .answered 200 (List.replicate 8 0xFF)

/-- A peer that announces two bytes, and sends them. -/
def honest : Dispatch → Exchange := fun _ => .answered 200 [2, 0, 0, 0, 0, 0, 0, 0, 0x68, 0x69]

/-- If the peer boasts, this is counted, and the loader has its say; if it is honest, the loader is
not asked. -/
theorem absorbs_peer_exchanges :
    ((lookupBeside boast).2 = (some (.error (.notFound "k")), [.peer "http://b", .loader]) ∧
      (lookupBeside boast).1.counters.peerErrors = 1) ∧
    (lookupBeside honest).2 = (some (.ok (.ofText "hi")), [.peer "http://b"]) := by
  have howner : (pooled.set ["http://b/"]).ring.owner? "k" = some "http://b" := by decide +kernel
  have habsent : (registered "g").store.find? "k" = none := Store.Sound.find?_empty 100
  have absorbs (send : Dispatch → Exchange) := absorbs_peer rfl rfl (by decide) habsent howner
    (by decide) send 3 fun key => .now (.error (.notFound key))
  constructor
  · cases hfetch : (Client.create "http://b" pooled.options.basePath).fetch .web boast "g" "k" with
    | ok value =>
      -- What it sends holds no value.
      obtain ⟨d, status, body, -, hsend, -, hbody⟩ := ((absorbs boast).value_iff value).mp hfetch
      cases hsend
      cases hbody
    | error fault =>
      exact ⟨(absorbs boast).fallen fault hfetch, (absorbs boast).counted fault hfetch⟩
  · apply (absorbs honest).served
    rw [(absorbs honest).value_iff]
    have hroute : (Route.web (Client.create "http://b" pooled.options.basePath) "g" "k").isOk := by
      decide +kernel
    cases hd : Route.web (Client.create "http://b" pooled.options.basePath) "g" "k" with
    | ok d => exact ⟨d, 200, _, hd, rfl, by decide, by decide⟩
    | error fault =>
      rw [hd] at hroute
      cases hroute

end Group

end ReadThrough
