import Multipath.Topology.Basic

/-!
# Building a topology

`Topology.build` turns a number of nodes, a list of edges and a list of endpoints into a
consistent `Topology`, or names the first fault.

* The edges are checked in the given order.  An edge is refused if it joins a node to itself, if
  an end is no node, or if it repeats an earlier edge in either direction; the faults of one edge
  are looked for in this order.
* Edges are kept with the lower end first and sorted, so the order and the direction in which they
  were given leave no trace.
* Endpoints are looked at only when all edges are good.
-/

namespace Multipath

namespace Edge

/-- The edge with its lower end first. -/
def normalize (e : Edge) : Edge :=
  if e.1 ≤ e.2 then e else (e.2, e.1)

/-- Edges are compared by their first end, then by their second. -/
def compare (e f : Edge) : Ordering :=
  (Ord.compare e.1 f.1).then (Ord.compare e.2 f.2)

theorem compare_eq_lex : compare = compareLex (compareOn Prod.fst) (compareOn Prod.snd) := rfl

instance : Std.TransCmp compare := by
  rw [compare_eq_lex]
  infer_instance

instance : Std.LawfulEqCmp compare where
  eq_of_compare := by
    intro e f h
    rw [compare, Ordering.then_eq_eq] at h
    exact Prod.ext (Std.LawfulEqCmp.eq_of_compare h.1) (Std.LawfulEqCmp.eq_of_compare h.2)

end Edge

/-- A set of edges, in increasing order. -/
abbrev EdgeSet := Std.ExtTreeSet Edge Edge.compare

namespace Topology

/-- The set `seen` with one more edge, unless the edge is at fault. -/
def addEdge (numNodes : UInt64) (seen : EdgeSet) (e : Edge) : Except TopologyError EdgeSet :=
  if e.1 = e.2 then .error (.selfLoop e.1)
  else if numNodes.toNat ≤ e.1.toNat then .error (.edgeOutOfRange e.1 e.2 e.1 numNodes)
  else if numNodes.toNat ≤ e.2.toNat then .error (.edgeOutOfRange e.1 e.2 e.2 numNodes)
  else if seen.contains e.normalize then .error (.duplicateEdge e.1 e.2)
  else .ok (seen.insert e.normalize)

/-- The set `seen` with one more endpoint, unless it is no node. -/
def addEndpoint (numNodes : UInt64) (seen : NodeSet) (node : NodeId) :
    Except TopologyError NodeSet :=
  if numNodes.toNat ≤ node.toNat then .error (.endpointOutOfRange node numNodes)
  else .ok (seen.insert node)

/-- Makes the ends of an edge neighbours of each other. -/
def join (adjacency : Array NodeSet) (e : Edge) : Array NodeSet :=
  (adjacency.modify e.1.toNat (·.insert e.2)).modify e.2.toNat (·.insert e.1)

/-- The topology with the given nodes, edges and endpoints.  Without endpoints, flows may begin
and end at every node. -/
def build (numNodes : UInt64) (edges : List Edge) (endpoints : List NodeId := []) :
    Except TopologyError Topology := do
  let links ← edges.foldlM (addEdge numNodes) ∅
  let ends ← endpoints.foldlM (addEndpoint numNodes) ∅
  return {
    numNodes := numNodes
    edges := links.toList
    adjacency := links.toList.foldl join (Array.replicate numNodes.toNat ∅)
    endpoints := ends }

end Topology

end Multipath
