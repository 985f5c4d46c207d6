import Multipath.Arbiter.NextHop
import Multipath.Topology.Basic

/-!
# Links by neighbour

`InterfaceMap.ofEdges` tabulates the links of one node by the neighbour at the other end, from the
interface numbers of all edges.  It refuses numbers that do not fit the topology: another count
than that of the edges, or a link on interface 0.
-/

namespace Multipath

/-- For each node, the link that leads to it, if there is one. -/
structure InterfaceMap where
  links : Array (Option LinkIndex)
  deriving DecidableEq

namespace InterfaceMap

/-- The node at the other end of an edge and the interface number at this end, if the edge is one
of `node`. -/
def ownSide (node : NodeId) (e : Edge) (indices : UInt32 × UInt32) : Option (NodeId × UInt32) :=
  if e.1 = node then some (e.2, indices.1)
  else if e.2 = node then some (e.1, indices.2)
  else none

/-- Enters an edge into the table of `node`, if it is one of its edges. -/
def addEdge (node : NodeId) (links : Array (Option LinkIndex)) :
    Edge × (UInt32 × UInt32) → Except (Failure TopologyError) (Array (Option LinkIndex))
  | (e, indices) =>
    match ownSide node e indices with
    | none => .ok links
    | some (neighbor, number) =>
      match LinkIndex.ofNumber? number with
      | none => .error (.error (.reservedInterface e.1 e.2))
      | some link =>
        if h : neighbor.toNat < links.size then .ok (links.set neighbor.toNat (some link) h)
        else .error (.outOfBounds links.size neighbor.toNat)

/-- The links of `node`; `indices` are the interface numbers at both ends of each edge. -/
def ofEdges (t : Topology) (node : NodeId) (indices : Array (UInt32 × UInt32)) :
    Except (Failure TopologyError) InterfaceMap :=
  if indices.size ≠ t.edges.length then
    .error (.error (.interfaceCountMismatch t.edges.length indices.size))
  else if t.size ≤ node.toNat then .error (.error (.nodeOutOfRange node t.numNodes))
  else do
    let links ← (t.edges.zip indices.toList).foldlM (addEdge node) (Array.replicate t.size none)
    return ⟨links⟩

/-- The link that leads to a node. -/
def linkTo (m : InterfaceMap) (neighbor : NodeId) : Option LinkIndex :=
  m.links[neighbor.toNat]?.join

end InterfaceMap

end Multipath
