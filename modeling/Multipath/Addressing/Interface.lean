import Multipath.Ipv4

/-!
# Interface addresses

The address of an interface together with the length of its network's prefix, and the constants of
the two kinds of interface: loop-back (`127.0.0.1/8`, always number 0) and link (`/24`).
-/

namespace Multipath

/-- The address of an interface. -/
structure InterfaceAddress where
  address : Ipv4
  prefixLen : UInt8
  deriving DecidableEq

namespace InterfaceAddress

/-- The prefix length of loop-back. -/
def loopbackPrefixLen : UInt8 := 8

/-- The prefix length of a link. -/
def linkPrefixLen : UInt8 := 24

/-- The address of every loop-back interface. -/
def loopback : InterfaceAddress := ⟨Ipv4.loopback, loopbackPrefixLen⟩

/-- The network mask: as many leading ones as the prefix is long, at most 32. -/
def mask (a : InterfaceAddress) : Ipv4 :=
  if a.prefixLen = 0 then ⟨0⟩
  else if 32 < a.prefixLen then ⟨0xFFFFFFFF⟩
  else ⟨0xFFFFFFFF <<< (32 - a.prefixLen.toUInt32)⟩

end InterfaceAddress

end Multipath
