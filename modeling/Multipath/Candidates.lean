import Multipath.Distance.Table
import Multipath.Log
import Multipath.Params

/-!
# Equally good next hops

For each node and each destination, the neighbours that are exactly one hop nearer to the
destination.  These are the nodes through which the shortest paths go on.

* `candidatesOf` lists them for one node and destination, in the order of the edges.
* `CandidateTable.compute` tabulates them for a whole topology, provided that it is not too large,
  and warns if some nodes cannot reach others.
-/

namespace Multipath

/-- Whether `next` is exactly one hop nearer to `destination` than `current`. -/
def DistanceTable.leadsTo (d : DistanceTable) (destination current next : NodeId) : Bool :=
  Distance.isOneCloser (d.distance next destination) (d.distance current destination)

/-- The neighbours of `current` one hop nearer to `destination`, in the order of the edges. -/
def candidatesOf (t : Topology) (d : DistanceTable) (current destination : NodeId) :
    List NodeId :=
  (t.incident current).filter (d.leadsTo destination current)

/-- The number of ordered pairs of nodes without a path between them. -/
def unreachablePairs (t : Topology) (d : DistanceTable) : Nat :=
  t.pairs.countP fun (a, b) => d.distance a b == Distance.unreachable

/-- For each node, for each destination, the candidates of the node. -/
structure CandidateTable where
  rows : Array (Array (List NodeId))
  deriving DecidableEq

namespace CandidateTable

/-- The candidate lists of one node, by destination. -/
def row (t : Topology) (d : DistanceTable) (current : NodeId) : Array (List NodeId) :=
  let around := t.incident current
  (t.nodes.map fun destination => around.filter (d.leadsTo destination current)).toArray

theorem row_eq (t : Topology) (d : DistanceTable) (current : NodeId) :
    row t d current = (t.nodes.map (candidatesOf t d current)).toArray := rfl

/-- The table of a topology and its distances. -/
def ofDistances (t : Topology) (d : DistanceTable) : CandidateTable where
  rows := (t.nodes.map (row t d)).toArray

/-- The table of a topology.  Its size is checked before anything is computed; a topology whose
nodes cannot all reach each other earns a warning. -/
def compute (t : Topology) (params : Params) :
    Logged (Except (Failure TopologyError) CandidateTable) :=
  if params.maxNodes < t.numNodes then
    pure (.error (.error (.tooManyNodes t.numNodes params.maxNodes)))
  else
    match DistanceTable.compute t with
    | .error e => pure (.error e)
    | .ok d => do
      let pairs := unreachablePairs t d
      if 0 < pairs then Logged.emit (.disconnected pairs)
      return .ok (ofDistances t d)

/-- The number of nodes that the table covers. -/
def size (c : CandidateTable) : Nat :=
  c.rows.size

/-- The candidates at `current` for packets to `destination`. -/
def get {ε : Type} (c : CandidateTable) (current destination : NodeId) :
    Except (Failure ε) (List NodeId) := do
  let row ← Failure.read c.rows current.toNat
  Failure.read row destination.toNat

end CandidateTable

end Multipath
