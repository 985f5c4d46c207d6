import Multipath.Murmur
import Multipath.Packet

/-!
# Flows and their hash

Packets with equal `FlowKey` take the same decision at a node.

* `effectivePorts` are the ports that count: those of the transport header, or zeros for a probe
  or another packet without headers, for a fragment, and where the protocol number does not match.
* `FlowKey.bytes` lays the key out in 21 bytes, most significant byte first: source (4),
  destination (4), protocol (1), source port (2), destination port (2), node (4), salt (4).
* `FlowKey.hash` is the Murmur hash of these bytes under seed 0.
-/

namespace Multipath

/-- The ports by which a packet is told apart from others.  `bare` says that there are no headers
behind the IPv4 one, whatever the protocol number announces. -/
def effectivePorts (header : Ipv4Header) (packet : Packet) (bare : Bool) : UInt16 × UInt16 :=
  if bare || header.isFragment then (0, 0)
  else (packet.ports? header.protocol).getD (0, 0)

/-- What a flow-based decision depends on: the flow, the deciding node, and a salt. -/
structure FlowKey where
  source : Ipv4
  destination : Ipv4
  protocol : UInt8
  sourcePort : UInt16
  destinationPort : UInt16
  node : UInt32
  salt : UInt32
  deriving DecidableEq

namespace FlowKey

/-- The key of a packet at `node`. -/
def ofPacket (header : Ipv4Header) (packet : Packet) (node : UInt32) (bare : Bool)
    (salt : UInt32) : FlowKey where
  source := header.source
  destination := header.destination
  protocol := header.protocol
  sourcePort := (effectivePorts header packet bare).1
  destinationPort := (effectivePorts header packet bare).2
  node := node
  salt := salt

/-- The bytes that are hashed. -/
def bytes (k : FlowKey) : List UInt8 :=
  bigEndian32 k.source.bits ++ bigEndian32 k.destination.bits ++ [k.protocol] ++
    bigEndian16 k.sourcePort ++ bigEndian16 k.destinationPort ++
    bigEndian32 k.node ++ bigEndian32 k.salt

/-- The hash by which the flow is assigned to one of several hops. -/
def hash (k : FlowKey) : UInt32 :=
  Murmur.hash 0 k.bytes

@[simp] theorem length_bytes (k : FlowKey) : k.bytes.length = 21 := rfl

end FlowKey

end Multipath
