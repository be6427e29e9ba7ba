import ReadThrough.Peer.Client

/-!
# What clients learn

A client learns a value only from a successful answer that holds an envelope with it. Everything
else that can come of a request, from an address that is none to an answer that breaks off, is a
fault of the peer, whatever its cause was.

## Main definitions

* `Fault.IsPeer fault`: the fault is one of the peer

## Main results

* `Client.accept_eq_ok_iff`, `Client.fetch_eq_ok_iff`: when a client learns a value
* `Client.isPeer_of_accept`, `Client.isPeer_of_fetch`: what it learns otherwise
-/

namespace ReadThrough

/-- The fault is one of the peer. -/
def Fault.IsPeer (fault : Fault) : Prop := ∃ text, fault = .peer text

theorem Fault.IsPeer.recoverable {fault : Fault} (h : fault.IsPeer) : fault.recoverable = true := by
  obtain ⟨text, rfl⟩ := h
  rfl

variable {c : Client} {group key : String} {fault : Fault} {value : Value}

/-- A request that cannot be sent is a fault of the peer. -/
theorem Route.isPeer_of_web (h : Route.web c group key = .error fault) : fault.IsPeer := by
  unfold Route.web at h
  split at h
  · exact ⟨_, (Except.error.inj h).symm⟩
  · split at h
    · cases h
    · exact ⟨_, (Except.error.inj h).symm⟩

namespace Client

variable {d : Dispatch} {x : Exchange}

/-- **A client learns a value** from a successful answer with an envelope that holds it. -/
theorem accept_eq_ok_iff : c.accept group key d x = .ok value ↔ ∃ status body,
    x = .answered status body ∧ Status.isSuccess status ∧
      Envelope.decode body = .ok value.bytes := by
  constructor
  · intro h
    cases x with
    | lost => cases h
    | broken status reason =>
      rw [accept] at h
      split at h <;> cases h
    | answered status body =>
      rw [accept] at h
      split at h
      · rename_i hs
        refine ⟨status, body, rfl, hs, ?_⟩
        split at h
        · rename_i bytes hb
          cases h
          exact hb
        · cases h
      · cases h
  · rintro ⟨status, body, rfl, hs, hb⟩
    rw [accept, if_pos hs, hb]

/-- Whatever else comes of a request is a fault of the peer. -/
theorem isPeer_of_accept (h : c.accept group key d x = .error fault) : fault.IsPeer := by
  cases x with
  | lost => exact ⟨_, (Except.error.inj h).symm⟩
  | broken status reason =>
    rw [accept] at h
    split at h <;> exact ⟨_, (Except.error.inj h).symm⟩
  | answered status body =>
    rw [accept] at h
    split at h
    · split at h
      · cases h
      · -- What is wrong with an envelope was not meant as a fault of the peer, and becomes one here.
        exact ⟨_, (Except.error.inj h).symm⟩
    · exact ⟨_, (Except.error.inj h).symm⟩

variable {route : Route} {send : Dispatch → Exchange}

theorem fetch_of_route (hd : route c group key = .ok d) :
    c.fetch route send group key = c.accept group key d (send d) := by
  rw [fetch, hd]
  rfl

theorem fetch_of_route_error (hd : route c group key = .error fault) :
    c.fetch route send group key = .error fault := by
  rw [fetch, hd]
  rfl

/-- When a client learns a value, from the request on. -/
theorem fetch_eq_ok_iff : c.fetch route send group key = .ok value ↔ ∃ d status body,
    route c group key = .ok d ∧ send d = .answered status body ∧ Status.isSuccess status ∧
      Envelope.decode body = .ok value.bytes := by
  cases hd : route c group key with
  | error fault =>
    rw [fetch_of_route_error hd]
    constructor
    · intro h
      cases h
    · rintro ⟨d, status, body, he, -⟩
      cases he
  | ok d =>
    rw [fetch_of_route hd, accept_eq_ok_iff]
    constructor
    · rintro ⟨status, body, h⟩
      exact ⟨d, status, body, rfl, h⟩
    · rintro ⟨d', status, body, he, h⟩
      cases he
      exact ⟨status, body, h⟩

/-- **All that a client learns but values are faults of the peer**, if those of the route are. -/
theorem isPeer_of_fetch (hroute : ∀ fault, route c group key = .error fault → fault.IsPeer)
    (h : c.fetch route send group key = .error fault) : fault.IsPeer := by
  cases hd : route c group key with
  | error fault' =>
    rw [fetch_of_route_error hd] at h
    cases h
    exact hroute fault hd
  | ok d =>
    rw [fetch_of_route hd] at h
    exact isPeer_of_accept h

end Client

end ReadThrough
