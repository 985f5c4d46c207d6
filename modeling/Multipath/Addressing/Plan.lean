import Multipath.Addressing.Interface
import Multipath.Addressing.Resolver
import Multipath.Topology.Basic

/-!
# The address plan

`AddressPlan.assign` numbers the interfaces of a topology and gives them addresses.

* Interface 0 of every node is loop-back.
* The edges are wired in their order.  Edge `i` is the network `10.0.0.0 + 256 * i` with the
  address `.1` at its first end and `.2` at its second; a plan for more than `2 ^ 24` edges would
  use networks twice.
* Every node numbers its links in the order in which its edges are wired.

`AddressPlan.resolver` maps the addresses of all links, but not those of loop-back, to their nodes.
-/

namespace Multipath

/-- The interfaces of all nodes. -/
structure AddressPlan where
  /-- For each edge, the number of its interface at the first and at the second end. -/
  indices : Array (UInt32 × UInt32)
  /-- For each node, its interfaces by number. -/
  interfaces : Array (Array InterfaceAddress)
  deriving DecidableEq

namespace AddressPlan

/-- The network of the first edge. -/
def baseNetwork : Ipv4 := Ipv4.ofOctets 10 0 0 0

/-- The address on edge `i` with the given last byte. -/
def linkAddress (i : Nat) (host : UInt32) : InterfaceAddress where
  address := ⟨(baseNetwork.bits + UInt32.ofNat i <<< 8) ||| host⟩
  prefixLen := InterfaceAddress.linkPrefixLen

/-- Gives `node` one more interface; the result starts with its number. -/
def attach {ε : Type} (interfaces : Array (Array InterfaceAddress)) (node : NodeId)
    (address : InterfaceAddress) :
    Except (Failure ε) (UInt32 × Array (Array InterfaceAddress)) :=
  match interfaces[node.toNat]? with
  | some own => .ok (UInt32.ofNat own.size, interfaces.modify node.toNat (·.push address))
  | none => .error (.outOfBounds interfaces.size node.toNat)

/-- The plan with one more edge wired, the one with number `i`. -/
def wire {ε : Type} (p : AddressPlan) : Edge × Nat → Except (Failure ε) AddressPlan
  | ((a, b), i) => do
    let (atFirst, interfaces) ← attach p.interfaces a (linkAddress i 1)
    let (atSecond, interfaces) ← attach interfaces b (linkAddress i 2)
    return ⟨p.indices.push (atFirst, atSecond), interfaces⟩

/-- The plan of `n` nodes without links. -/
def unwired (n : Nat) : AddressPlan :=
  ⟨#[], Array.replicate n #[InterfaceAddress.loopback]⟩

/-- The plan of a topology. -/
def assign {ε : Type} (t : Topology) : Except (Failure ε) AddressPlan :=
  t.edges.zipIdx.foldlM wire (unwired t.size)

/-- The interfaces of a node. -/
def interfacesOf {ε : Type} (p : AddressPlan) (node : NodeId) :
    Except (Failure ε) (Array InterfaceAddress) :=
  Failure.read p.interfaces node.toNat

/-- The addresses of all links with their nodes, node by node. -/
def linkOwners (p : AddressPlan) : List (Ipv4 × NodeId) :=
  p.interfaces.toList.zipIdx.flatMap fun (own, node) =>
    (own.toList.drop 1).map fun interface => (interface.address, UInt32.ofNat node)

/-- Maps the address of every link to its node. -/
def resolver (p : AddressPlan) : Resolver :=
  Resolver.ofEntries p.linkOwners

end AddressPlan

end Multipath
