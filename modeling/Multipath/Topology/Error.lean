import Std.Data.ExtTreeSet

/-!
# Faults of a topology

What can be wrong with a description of a network, found before any packet is routed.
-/

namespace Multipath

/-- A node, numbered from zero. -/
abbrev NodeId := UInt32

/-- A set of nodes, in increasing order. -/
abbrev NodeSet := Std.ExtTreeSet NodeId

/-- A fault in a topology or in what was assigned to its edges. -/
inductive TopologyError where
  /-- The network has more nodes than the parameters allow. -/
  | tooManyNodes (numNodes max : UInt64)
  /-- An edge joins a node to itself. -/
  | selfLoop (node : NodeId)
  /-- The end `node` of the edge `a`-`b` is no node of the network. -/
  | edgeOutOfRange (a b node : NodeId) (numNodes : UInt64)
  /-- An edge repeats an earlier one, in either direction. -/
  | duplicateEdge (a b : NodeId)
  /-- The network has no such node. -/
  | nodeOutOfRange (node : NodeId) (numNodes : UInt64)
  /-- An endpoint is no node of the network. -/
  | endpointOutOfRange (node : NodeId) (numNodes : UInt64)
  /-- Interface indices were given for another number of edges. -/
  | interfaceCountMismatch (expected actual : Nat)
  /-- The edge `a`-`b` was given the loop-back interface. -/
  | reservedInterface (a b : NodeId)
  deriving DecidableEq

/-- The text that reports a fault. -/
def TopologyError.message : TopologyError → String
  | tooManyNodes numNodes max => s!"Cannot handle more than {max} nodes (got {numNodes})"
  | selfLoop node => s!"Cannot have edge to itself on node {node}"
  | edgeOutOfRange a b node numNodes =>
    s!"Node identifier {node} in edge {a}-{b} does not exist (num_nodes = {numNodes})"
  | duplicateEdge a b => s!"Duplicate edge {a}-{b} in edge set"
  | nodeOutOfRange node numNodes => s!"Node {node} is out of node id range of [0, {numNodes})"
  | endpointOutOfRange node numNodes =>
    s!"Endpoint {node} is out of node id range of [0, {numNodes})"
  | interfaceCountMismatch expected actual =>
    s!"Expected interface indices for {expected} undirected edges, got {actual}"
  | reservedInterface a b =>
    s!"Interface index 0 is reserved for loop-back, but edge {a}-{b} was assigned to it"

end Multipath
