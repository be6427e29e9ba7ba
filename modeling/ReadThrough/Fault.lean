/-!
# Faults

The ways a lookup, a peer request or the wiring of a node can fail. A fault is a value: one load
that fails hands the same fault to everyone who waited for it.

## Main definitions

* `Fault`: the causes, each with a text of its own
* `Fault.message f`: the fault in words
* `Fault.recoverable f`: a group answers the lookup from its loader instead
* `Fault.status f`: the status code a front-end request is answered with
-/

namespace ReadThrough

/-- Why an operation failed. -/
inductive Fault where
  /-- The key is not one that can be looked up. -/
  | invalidKey (text : String)
  /-- The source has no value for the key, or there is no such group. -/
  | notFound (text : String)
  /-- The loader failed. -/
  | loader (text : String)
  /-- A peer could not be reached, refused, or answered with something unreadable. -/
  | peer (text : String)
  /-- A request path or a payload is malformed. -/
  | protocol (text : String)
  /-- Groups or peers are wired up wrongly. -/
  | config (text : String)
  /-- A load did not finish within its limit. -/
  | timeout (text : String)
  /-- Anything else. -/
  | internal (text : String)
  deriving DecidableEq, Repr, Inhabited

namespace Fault

/-- The fault in words. -/
def message : Fault → String
  | .invalidKey text => "Invalid key: " ++ text
  | .notFound text => "Key not found: " ++ text
  | .loader text => "Loader error: " ++ text
  | .peer text => "Peer error: " ++ text
  | .protocol text => "Protocol error: " ++ text
  | .config text => "Configuration error: " ++ text
  | .timeout text => "Timed out: " ++ text
  | .internal text => "Internal error: " ++ text

/-- Trouble with a peer is absorbed: the group asks its loader instead. -/
def recoverable : Fault → Bool
  | .peer _ => true
  | _ => false

/-- The status code a front-end request that ends in the fault is answered with. -/
def status : Fault → Nat
  | .invalidKey _ | .protocol _ => 400
  | .notFound _ => 404
  | .peer _ => 502
  | .timeout _ => 504
  | .loader _ | .config _ | .internal _ => 500

end Fault

end ReadThrough
