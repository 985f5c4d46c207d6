import Multipath.Arbiter.Error
import Multipath.Packet

/-!
# Forwarding policies

A policy picks, for one packet at one node, the neighbour to which the packet goes next.  It need
not be right: its choice is checked by whoever asks.
-/

namespace Multipath

/-- What a policy is told. -/
structure Query where
  /-- The deciding node. -/
  node : NodeId
  source : NodeId
  target : NodeId
  /-- The neighbours of the deciding node. -/
  neighbors : NodeSet
  packet : Packet
  header : Ipv4Header
  /-- Nothing is sent, a socket only asks for its source address; the packet has no headers. -/
  probe : Bool

/-- A way of choosing next hops. -/
class Policy (π : Type) where
  /-- The node to which the packet goes next; `none` if there is no route. -/
  choose : π → Query → Except ArbiterError (Option NodeId)
  /-- The policy's state at a node, for people to read. -/
  dump : π → NodeId → String

end Multipath
