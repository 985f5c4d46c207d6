import Multipath.Failure
import Multipath.Topology.Error

/-!
# Topologies

An undirected graph of nodes joined by point-to-point links, and the nodes at which flows may
begin and end.

A `Topology` is plain data: its edge list and its neighbour sets are two views of the same graph
only if it was made by `Topology.build`.  One that was restored from storage may disagree with
itself, so the queries below say which view they read.
-/

namespace Multipath

/-- Two joined nodes. -/
abbrev Edge := NodeId × NodeId

/-- A point-to-point network. -/
structure Topology where
  numNodes : UInt64
  /-- The links; in a built topology each has its lower end first, and they are sorted. -/
  edges : List Edge
  /-- The neighbours of each node. -/
  adjacency : Array NodeSet
  /-- The nodes at which flows may begin and end; if there are none, all nodes. -/
  endpoints : NodeSet

namespace Topology

/-- The number of nodes. -/
def size (t : Topology) : Nat :=
  t.numNodes.toNat

/-- The nodes in increasing order.  Only numbers below `2 ^ 32` can name a node. -/
def nodes (t : Topology) : List NodeId :=
  (List.range t.numNodes.toUInt32.toNat).map UInt32.ofNat

/-- The ordered pairs of nodes. -/
def pairs (t : Topology) : List (NodeId × NodeId) :=
  t.nodes.flatMap fun a => t.nodes.map fun b => (a, b)

/-- The neighbours of a node. -/
def neighbors {ε : Type} (t : Topology) (node : NodeId) : Except (Failure ε) NodeSet :=
  Failure.read t.adjacency node.toNat

/-- Whether `b` is among the neighbours of `a`; no node outside the network has any. -/
def hasEdge (t : Topology) (a b : NodeId) : Bool :=
  t.adjacency[a.toNat]?.any (·.contains b)

/-- Whether flows may begin and end at a node. -/
def isEndpoint (t : Topology) (node : NodeId) : Bool :=
  if t.endpoints.isEmpty then decide (node.toNat < t.size) else t.endpoints.contains node

/-- The other ends of the links at `node`, in the order of the edges. -/
def incident (t : Topology) (node : NodeId) : List NodeId :=
  t.edges.filterMap fun (a, b) =>
    if a = node then some b else if b = node then some a else none

end Topology

end Multipath
