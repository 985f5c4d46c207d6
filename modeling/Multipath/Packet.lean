import Multipath.Ipv4

/-!
# Packets

What a router sees of a packet: the IPv4 header and, behind it, at most one transport header.

* A header whose source is `Ipv4Header.probeSource` is a *probe*: a socket asks which source
  address it would get, and nothing is sent.
* `Packet.ports?` peeks at the ports, but only where the header's protocol number announces the
  kind of transport header that is there.
-/

namespace Multipath

/-- The protocol number of TCP. -/
def tcpProtocol : UInt8 := 6

/-- The protocol number of UDP. -/
def udpProtocol : UInt8 := 17

/-- The fields of an IPv4 header that routing reads. -/
structure Ipv4Header where
  source : Ipv4
  destination : Ipv4
  protocol : UInt8
  /-- Offset of this fragment, in units of eight bytes. -/
  fragmentOffset : UInt16 := 0
  moreFragments : Bool := false
  deriving DecidableEq

namespace Ipv4Header

/-- The placeholder source of a socket that has yet to learn its own address. -/
def probeSource : Ipv4 := Ipv4.ofOctets 102 102 102 102

/-- The header with which a socket asks for its source address. -/
def probe (destination : Ipv4) (protocol : UInt8) : Ipv4Header where
  source := probeSource
  destination := destination
  protocol := protocol

/-- Whether the packet behind the header is only a question for a source address. -/
def isProbe (h : Ipv4Header) : Bool :=
  h.source == probeSource

/-- Whether the packet is one of several fragments. -/
def isFragment (h : Ipv4Header) : Bool :=
  h.moreFragments || h.fragmentOffset != 0

@[simp] theorem isProbe_probe (destination : Ipv4) (protocol : UInt8) :
    (probe destination protocol).isProbe = true := by
  simp [isProbe, probe]

end Ipv4Header

/-- The header right behind the IPv4 header. -/
inductive TransportHeader where
  | tcp (sourcePort destinationPort : UInt16)
  | udp (sourcePort destinationPort : UInt16)
  deriving DecidableEq

/-- A packet without its IPv4 header. -/
structure Packet where
  uid : UInt64
  payloadSize : UInt32
  transport : Option TransportHeader := none
  deriving DecidableEq

/-- Source and destination port, if the packet has a transport header of the kind that `protocol`
announces. -/
def Packet.ports? (p : Packet) (protocol : UInt8) : Option (UInt16 × UInt16) :=
  match p.transport with
  | some (.tcp s d) => if protocol = tcpProtocol then some (s, d) else none
  | some (.udp s d) => if protocol = udpProtocol then some (s, d) else none
  | none => none

end Multipath
