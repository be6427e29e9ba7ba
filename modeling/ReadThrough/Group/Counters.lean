/-!
# What a group counts

## Main definitions

* `Group.Counters`: how a group's lookups were answered
* `Group.Counter`, `Group.Counters.record`: one of the counts, and counting one more
-/

namespace ReadThrough.Group

/-- How a group's lookups were answered. -/
structure Counters where
  /-- Lookups of any kind. -/
  gets : Nat := 0
  /-- Lookups answered from the store. -/
  cacheHits : Nat := 0
  /-- Values fetched from a peer. -/
  peerLoads : Nat := 0
  /-- Peer fetches that failed, so that the loader was asked. -/
  peerErrors : Nat := 0
  /-- Misses that went to the single-flight gate. -/
  loads : Nat := 0
  /-- Loads that were executed. -/
  executions : Nat := 0
  /-- Loader calls that succeeded. -/
  localLoads : Nat := 0
  /-- Loader calls that failed. -/
  localErrors : Nat := 0
  /-- Requests that came from peers. -/
  serverRequests : Nat := 0
  deriving DecidableEq, Repr, Inhabited

/-- The counts of a group by name. -/
inductive Counter where
  | gets
  | cacheHits
  | peerLoads
  | peerErrors
  | loads
  | executions
  | localLoads
  | localErrors
  | serverRequests
  deriving DecidableEq, Repr

/-- Counts one more. -/
def Counters.record (s : Counters) : Counter → Counters
  | .gets => { s with gets := s.gets + 1 }
  | .cacheHits => { s with cacheHits := s.cacheHits + 1 }
  | .peerLoads => { s with peerLoads := s.peerLoads + 1 }
  | .peerErrors => { s with peerErrors := s.peerErrors + 1 }
  | .loads => { s with loads := s.loads + 1 }
  | .executions => { s with executions := s.executions + 1 }
  | .localLoads => { s with localLoads := s.localLoads + 1 }
  | .localErrors => { s with localErrors := s.localErrors + 1 }
  | .serverRequests => { s with serverRequests := s.serverRequests + 1 }

end ReadThrough.Group
