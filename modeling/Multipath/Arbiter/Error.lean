import Multipath.Ipv4
import Multipath.Topology.Error

/-!
# Faults of a forwarding decision

What can go wrong when a packet's next hop is decided.  All of these mean that the addressing or
the forwarding policy does not fit the network.
-/

namespace Multipath

/-- A fault found while deciding where a packet goes. -/
inductive ArbiterError where
  /-- No node owns the address. -/
  | unknownAddress (ip : Ipv4)
  /-- The destination is a multicast address. -/
  | multicast (destination : Ipv4)
  /-- The policy chose something that is no node. -/
  | nodeOutOfRange (selected : NodeId) (numNodes : UInt64)
  /-- The policy chose a node to which there is no link. -/
  | notANeighbor (selected node : NodeId)
  /-- No neighbour of `node` is nearer to `target`. -/
  | noCandidates (source target node : NodeId)
  deriving DecidableEq

/-- The text that reports a fault. -/
def ArbiterError.message : ArbiterError → String
  | unknownAddress ip =>
    let number := ip.bits
    s!"IP address {ip} ({number}) is not mapped to a node id"
  | multicast destination => s!"Multi-cast is not supported (destination {destination})"
  | nodeOutOfRange selected numNodes =>
    s!"The selected next node {selected} is out of node id range of [0, {numNodes})."
  | notANeighbor selected node =>
    s!"The selected next node {selected} is not a neighbor of node {node}."
  | noCandidates source target node =>
    s!"ECMP has no candidates at node {node} for source {source} and target {target}, " ++
      "no path exists between them."

end Multipath
