import Mathlib.Data.Nat.Notation
import Mathlib.Logic.Function.Basic
import Multipath.Flow

/-!
# The bytes of a flow key can be read back

The seven fields of a key stand one behind the other in its 21 bytes, each with a width of its own and
its most significant byte first.  `FlowKey.Shows` says where they are; as all of them can be read
there, the bytes determine the key (`FlowKey.bytes_injective`).

The key of a packet has two ports, even if the packet has none.  `OpenPorts` says when the ports of
the transport header are taken: there are headers, the packet is no fragment, and the transport header
is of the kind that the protocol announces.  In all other cases both ports are zero
(`effectivePorts_eq_iff`).
-/

namespace Multipath

variable {header : Ipv4Header} {packet : Packet} {bare : Bool} {ports : UInt16 × UInt16}

/-! ### Numbers in bytes -/

/-- The number with the given bytes, most significant first. -/
def numberOf (bytes : List UInt8) : ℕ :=
  bytes.foldl (fun n b => 256 * n + b.toNat) 0

/-- The number that starts at the byte `start` and is `width` bytes long. -/
def numberAt (bytes : List UInt8) (start width : ℕ) : ℕ :=
  numberOf ((bytes.drop start).take width)

theorem numberOf_singleton (b : UInt8) : numberOf [b] = b.toNat := by
  simp [numberOf]

theorem numberOf_bigEndian16 (w : UInt16) : numberOf (bigEndian16 w) = w.toNat := by
  have hw := w.toNat_lt
  simp only [numberOf, bigEndian16, List.foldl_cons, List.foldl_nil, UInt16.toNat_toUInt8,
    UInt16.toNat_shiftRight, Nat.shiftRight_eq_div_pow, UInt16.reduceToNat, Nat.reduceMod]
  omega

theorem numberOf_bigEndian32 (w : UInt32) : numberOf (bigEndian32 w) = w.toNat := by
  have hw := w.toNat_lt
  simp only [numberOf, bigEndian32, List.foldl_cons, List.foldl_nil, UInt32.toNat_toUInt8,
    UInt32.toNat_shiftRight, Nat.shiftRight_eq_div_pow, UInt32.reduceToNat, Nat.reduceMod]
  omega

/-! ### The places of the fields -/

namespace FlowKey

variable {k k' : FlowKey} {raw : List UInt8}

/-- The fields of `k` stand at their places. -/
structure Shows (raw : List UInt8) (k : FlowKey) : Prop where
  source : numberAt raw 0 4 = k.source.bits.toNat
  destination : numberAt raw 4 4 = k.destination.bits.toNat
  protocol : numberAt raw 8 1 = k.protocol.toNat
  sourcePort : numberAt raw 9 2 = k.sourcePort.toNat
  destinationPort : numberAt raw 11 2 = k.destinationPort.toNat
  node : numberAt raw 13 4 = k.node.toNat
  salt : numberAt raw 17 4 = k.salt.toNat

/-- Every field can be read back from the bytes. -/
theorem shows_bytes (k : FlowKey) : Shows k.bytes k where
  source := numberOf_bigEndian32 k.source.bits
  destination := numberOf_bigEndian32 k.destination.bits
  protocol := numberOf_singleton k.protocol
  sourcePort := numberOf_bigEndian16 k.sourcePort
  destinationPort := numberOf_bigEndian16 k.destinationPort
  node := numberOf_bigEndian32 k.node
  salt := numberOf_bigEndian32 k.salt

/-- There is only one key to be read. -/
theorem Shows.unique (h : Shows raw k) (h' : Shows raw k') : k = k' := by
  obtain ⟨⟨source⟩, ⟨destination⟩, protocol, sourcePort, destinationPort, node, salt⟩ := k
  obtain ⟨⟨source'⟩, ⟨destination'⟩, protocol', sourcePort', destinationPort', node', salt'⟩ := k'
  obtain rfl : source = source' := UInt32.toNat_inj.mp (h.source.symm.trans h'.source)
  obtain rfl : destination = destination' :=
    UInt32.toNat_inj.mp (h.destination.symm.trans h'.destination)
  obtain rfl : protocol = protocol' := UInt8.toNat_inj.mp (h.protocol.symm.trans h'.protocol)
  obtain rfl : sourcePort = sourcePort' :=
    UInt16.toNat_inj.mp (h.sourcePort.symm.trans h'.sourcePort)
  obtain rfl : destinationPort = destinationPort' :=
    UInt16.toNat_inj.mp (h.destinationPort.symm.trans h'.destinationPort)
  obtain rfl : node = node' := UInt32.toNat_inj.mp (h.node.symm.trans h'.node)
  obtain rfl : salt = salt' := UInt32.toNat_inj.mp (h.salt.symm.trans h'.salt)
  rfl

/-- A key can be told from its bytes. -/
theorem bytes_injective : Function.Injective bytes := by
  intro k k' h
  exact k.shows_bytes.unique (h ▸ k'.shows_bytes)

end FlowKey

/-! ### The ports that count -/

/-- The packet has the given ports, and they are open to be read: it is not bare, it is no fragment,
and the protocol announces its transport header. -/
structure OpenPorts (header : Ipv4Header) (packet : Packet) (bare : Bool)
    (ports : UInt16 × UInt16) : Prop where
  not_bare : bare = false
  not_fragment : header.moreFragments = false ∧ header.fragmentOffset = 0
  announced : header.protocol = 6 ∧ packet.transport = some (.tcp ports.1 ports.2) ∨
    header.protocol = 17 ∧ packet.transport = some (.udp ports.1 ports.2)

theorem ports?_eq_some_iff {protocol : UInt8} : packet.ports? protocol = some ports ↔
    protocol = 6 ∧ packet.transport = some (.tcp ports.1 ports.2) ∨
      protocol = 17 ∧ packet.transport = some (.udp ports.1 ports.2) := by
  obtain ⟨s, d⟩ := ports
  unfold Packet.ports?
  cases packet.transport with
  | none => simp
  | some transport =>
      cases transport with
      | tcp => by_cases h : protocol = 6 <;> simp [tcpProtocol, h]
      | udp => by_cases h : protocol = 17 <;> simp [udpProtocol, h]

theorem openPorts_iff : OpenPorts header packet bare ports ↔
    (bare || header.isFragment) = false ∧ packet.ports? header.protocol = some ports := by
  have hfragment : header.isFragment = false ↔
      header.moreFragments = false ∧ header.fragmentOffset = 0 := by
    simp [Ipv4Header.isFragment]
  rw [Bool.or_eq_false_iff, hfragment, ports?_eq_some_iff]
  exact ⟨fun h => ⟨⟨h.not_bare, h.not_fragment⟩, h.announced⟩, fun h => ⟨h.1.1, h.1.2, h.2⟩⟩

/-- The ports that count are the open ones, or zeros if there are none. -/
theorem effectivePorts_eq_iff : effectivePorts header packet bare = ports ↔
    OpenPorts header packet bare ports ∨
      (∀ other, ¬ OpenPorts header packet bare other) ∧ ports = (0, 0) := by
  simp only [openPorts_iff, effectivePorts]
  cases bare || header.isFragment with
  | true => simp [eq_comm]
  | false =>
      cases packet.ports? header.protocol with
      | none => simp [eq_comm]
      | some shown => simp

/-- **The hashed bytes are unambiguous.**  Two questions for a hash lead to the same bytes if and only
if they agree in the addresses, the protocol, the node, the salt and the ports that count.  The ports
that count are those of the transport header where they are open, and zeros elsewhere.  There are 21
bytes, and all fields stand in them at their places. -/
theorem FlowKey.bytes_unambiguous :
    (∀ header packet node bare salt header' packet' node' bare' salt',
      (ofPacket header packet node bare salt).bytes =
          (ofPacket header' packet' node' bare' salt').bytes ↔
        header.source = header'.source ∧ header.destination = header'.destination ∧
          header.protocol = header'.protocol ∧ node = node' ∧ salt = salt' ∧
          effectivePorts header packet bare = effectivePorts header' packet' bare') ∧
    (∀ header packet bare ports, effectivePorts header packet bare = ports ↔
      OpenPorts header packet bare ports ∨
        (∀ other, ¬ OpenPorts header packet bare other) ∧ ports = (0, 0)) ∧
    ∀ header packet node bare salt,
      (ofPacket header packet node bare salt).bytes.length = 21 ∧
        Shows (ofPacket header packet node bare salt).bytes
          { source := header.source
            destination := header.destination
            protocol := header.protocol
            sourcePort := (effectivePorts header packet bare).1
            destinationPort := (effectivePorts header packet bare).2
            node := node
            salt := salt } := by
  refine ⟨?_, fun _ _ _ _ => effectivePorts_eq_iff, fun _ _ _ _ _ => ⟨rfl, shows_bytes _⟩⟩
  intro header packet node bare salt header' packet' node' bare' salt'
  rw [bytes_injective.eq_iff]
  simp only [ofPacket, FlowKey.mk.injEq, Prod.ext_iff]
  constructor
  · rintro ⟨hsource, hdestination, hprotocol, hfirst, hsecond, hnode, hsalt⟩
    exact ⟨hsource, hdestination, hprotocol, hnode, hsalt, hfirst, hsecond⟩
  · rintro ⟨hsource, hdestination, hprotocol, hnode, hsalt, hfirst, hsecond⟩
    exact ⟨hsource, hdestination, hprotocol, hfirst, hsecond, hnode, hsalt⟩

end Multipath
