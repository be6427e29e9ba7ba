import Std.Data.HashMap
import ReadThrough.Ring.Hash
import ReadThrough.Text.Order
import ReadThrough.Text.Quoted

/-!
# The ring of nodes

Every node is placed on a circle at several points, the hashes of its name with a number in front.
A key belongs to the node at the first point that is not before the key's own hash, where the
smallest point follows the largest. Where two nodes have a point in common, the one placed last
has it.

## Main definitions

* `Ring`: points in ascending order, and the node at each
* `Ring.add r nodes`: the ring with further nodes
* `Ring.owner? r key`: the node a key belongs to
* `Ring.nodes r`: the nodes with a point of their own
-/

namespace ReadThrough

/-- Points in ascending order, and the node at each. -/
structure Ring where
  /-- Number of points for each node. -/
  replicas : Nat
  /-- Where labels and keys lie on the circle. -/
  hash : Hash
  /-- The points, ascending. -/
  points : Array UInt32
  /-- The node at each point. -/
  owners : Std.HashMap UInt32 String

namespace Ring

/-- Number of points for each node, if nothing else is asked for. -/
def defaultReplicas : Nat := 50

/-- A ring without nodes. -/
def empty (replicas : Nat) (hash : Hash) : Ring := ⟨replicas, hash, #[], ∅⟩

/-! ## Placing nodes -/

/-- The bytes whose hash is the point number `i` of a node. -/
def label (node : String) (i : Nat) : Bytes := Text.utf8 (toString i ++ node)

/-- Puts a node at its point number `i`, without keeping the points in order. -/
def placePoint (node : String) (r : Ring) (i : Nat) : Ring :=
  let p := r.hash (label node i)
  { r with
    points := if r.owners.contains p then r.points else r.points.push p
    owners := r.owners.insert p node }

/-- Puts a node at all its points, without keeping the points in order. -/
def placeNode (r : Ring) (node : String) : Ring :=
  (List.range r.replicas).foldl (placePoint node) r

/-- The ring with further nodes. -/
def add (r : Ring) (nodes : List String) : Ring :=
  let r := nodes.foldl placeNode r
  { r with points := (r.points.toList.mergeSort fun p q => decide (p ≤ q)).toArray }

/-! ## Finding owners -/

/-- The first index from `lo` on, up to `hi`, at which a value not below `x` stands in an ascending
array. -/
def lowerBound (a : Array UInt32) (x : UInt32) (lo hi : Nat) : Nat :=
  if lo < hi then
    let mid := (lo + hi) / 2
    if a[mid]?.any (· < x) then lowerBound a x (mid + 1) hi else lowerBound a x lo mid
  else lo
  termination_by hi - lo

/-- The node a key belongs to; none on a ring without points. -/
def owner? (r : Ring) (key : String) : Option String :=
  if r.points.isEmpty then none
  else
    -- Past the largest point the circle closes, and the remainder is the smallest one's index.
    let i := lowerBound r.points (r.hash (Text.utf8 key)) 0 r.points.size % r.points.size
    r.points[i]?.bind fun p => r.owners[p]?

/-- Number of points. -/
def size (r : Ring) : Nat := r.points.size

/-- There is no point. -/
def isEmpty (r : Ring) : Bool := r.points.isEmpty

/-- The nodes with a point of their own, ascending, each once. -/
def nodes (r : Ring) : List String := Text.sortedDistinct (r.owners.toList.map (·.2))

/-- The ring in words. -/
def describe (r : Ring) : String :=
  Text.record "HashRing" [("replicas", toString r.replicas), ("points", toString r.size),
    ("nodes", Text.quoteList r.nodes)]

end Ring

end ReadThrough
