import Multipath.Proofs.Arbiter.Decide
import Multipath.Proofs.Flow.Layout
import Multipath.Topology.Build

/-!
# A multi-path decision sees only the flow

What a multi-path arbiter decides depends on the two addresses of a packet, on its protocol and on
the ports that the packet shows (`decide_eq_of_flow`).  `ShowsPorts` says when a packet shows its
ports: it is no probe and no fragment, and its transport header is of the kind that the protocol
announces.  All other packets between the same addresses are alike, as if their ports were zero.
-/

namespace Multipath

variable {header header' : Ipv4Header} {packet packet' : Packet} {ports : UInt16 × UInt16}

/-- The packet has the given ports, and they are read. -/
structure ShowsPorts (header : Ipv4Header) (packet : Packet) (ports : UInt16 × UInt16) : Prop where
  not_probe : header.source ≠ Ipv4.ofOctets 102 102 102 102
  not_fragment : header.moreFragments = false ∧ header.fragmentOffset = 0
  announced : header.protocol = 6 ∧ packet.transport = some (.tcp ports.1 ports.2) ∨
    header.protocol = 17 ∧ packet.transport = some (.udp ports.1 ports.2)

/-- By these ports the packet is told apart: by those that it shows, by zeros if it shows none. -/
def ToldByPorts (header : Ipv4Header) (packet : Packet) (ports : UInt16 × UInt16) : Prop :=
  ShowsPorts header packet ports ∨ (∀ shown, ¬ ShowsPorts header packet shown) ∧ ports = (0, 0)

/-! ### The ports that count -/

theorem showsPorts_iff :
    ShowsPorts header packet ports ↔ OpenPorts header packet header.isProbe ports := by
  have hprobe : header.isProbe = false ↔ header.source ≠ Ipv4.ofOctets 102 102 102 102 := by
    simp [Ipv4Header.isProbe, Ipv4Header.probeSource]
  constructor
  · intro h
    exact ⟨hprobe.mpr h.not_probe, h.not_fragment, h.announced⟩
  · intro h
    exact ⟨hprobe.mp h.not_bare, h.not_fragment, h.announced⟩

/-- The ports that enter the hash are those by which the packet is told apart. -/
theorem toldByPorts_iff :
    ToldByPorts header packet ports ↔ effectivePorts header packet header.isProbe = ports := by
  simp only [ToldByPorts, showsPorts_iff, effectivePorts_eq_iff]

/-! ### The decision -/

namespace Ecmp

/-- The choice reads nothing of the packet but the key of its flow. -/
theorem choose_congr {p : Ecmp} {q q' : Query} (hnode : q.node = q'.node)
    (hsource : q.source = q'.source) (htarget : q.target = q'.target)
    (hhash : p.flowHash q.header q.packet q.node q.probe =
      p.flowHash q'.header q'.packet q'.node q'.probe) : p.choose q = p.choose q' := by
  rw [choose, choose, hhash, hnode, hsource, htarget]

end Ecmp

namespace Arbiter

variable {a : Arbiter Ecmp}

theorem decideBetween_congr {source target : NodeId} {probe probe' : Bool}
    (hkey : a.policy.flowHash header packet a.node probe =
      a.policy.flowHash header' packet' a.node probe') :
    a.decideBetween source target packet header probe =
      a.decideBetween source target packet' header' probe' := by
  cases hneighbors : (a.topology.neighbors a.node : Except (Failure ArbiterError) _) with
  | error e =>
      rw [decideBetween, decideBetween, questionBetween, questionBetween, hneighbors]
      rfl
  | ok neighbors =>
      have hchoose : Policy.choose a.policy
            ⟨a.node, source, target, neighbors, packet, header, probe⟩ =
          Policy.choose a.policy ⟨a.node, source, target, neighbors, packet', header', probe'⟩ :=
        Ecmp.choose_congr rfl rfl rfl hkey
      rw [decideBetween_eq_answer hneighbors, decideBetween_eq_answer hneighbors, answer, answer,
        hchoose]

theorem decide_congr (hsource : header.source = header'.source)
    (hdestination : header.destination = header'.destination)
    (hprotocol : header.protocol = header'.protocol)
    (hports : effectivePorts header packet header.isProbe =
      effectivePorts header' packet' header'.isProbe) :
    a.decide packet header = a.decide packet' header' := by
  have hprobe : header.isProbe = header'.isProbe := by
    rw [Ipv4Header.isProbe, Ipv4Header.isProbe, hsource]
  have hkey : a.policy.flowHash header packet a.node header.isProbe =
      a.policy.flowHash header' packet' a.node header'.isProbe := by
    rw [Ecmp.flowHash, Ecmp.flowHash, FlowKey.ofPacket, FlowKey.ofPacket, hports, hsource,
      hdestination, hprotocol]
  have hbetween : ∀ source target, a.decideBetween source target packet header header.isProbe =
      a.decideBetween source target packet' header' header'.isProbe :=
    fun source target => decideBetween_congr hkey
  rw [decide_eq_bind, decide_eq_bind, sourceOf, sourceOf, ← hprobe, ← hsource, ← hdestination]
  simp only [hbetween, ← hprobe]

/-- **A multi-path decision sees only the flow.**  Two packets get the same decision, be it a hop or
a fault, if they have the same addresses and protocol and are told apart by the same ports.  So
nothing of a probe but its addresses and protocol matters, not even whether it looks like a fragment;
and for no packet do its identifier and its size. -/
theorem decide_eq_of_flow (a : Arbiter Ecmp) :
    (∀ packet packet' header header', header.source = header'.source →
        header.destination = header'.destination → header.protocol = header'.protocol →
        ∀ ports, ToldByPorts header packet ports → ToldByPorts header' packet' ports →
          a.decide packet header = a.decide packet' header') ∧
      (∀ packet packet' header header', header.source = Ipv4.ofOctets 102 102 102 102 →
        header'.source = Ipv4.ofOctets 102 102 102 102 →
        header.destination = header'.destination → header.protocol = header'.protocol →
          a.decide packet header = a.decide packet' header') ∧
      ∀ packet header uid payloadSize,
        a.decide { packet with uid := uid, payloadSize := payloadSize } header =
          a.decide packet header := by
  refine ⟨?_, ?_, ?_⟩
  · intro packet packet' header header' hsource hdestination hprotocol ports hports hports'
    have heq := (toldByPorts_iff.mp hports).trans (toldByPorts_iff.mp hports').symm
    exact decide_congr hsource hdestination hprotocol heq
  · intro packet packet' header header' hprobe hprobe' hdestination hprotocol
    -- a probe shows no ports, whatever is behind its header
    have hnone : ∀ (header : Ipv4Header) (packet : Packet),
        header.source = Ipv4.ofOctets 102 102 102 102 → ToldByPorts header packet (0, 0) :=
      fun header packet h => Or.inr ⟨fun shown hshown => hshown.not_probe h, rfl⟩
    have heq := (toldByPorts_iff.mp (hnone header packet hprobe)).trans
      (toldByPorts_iff.mp (hnone header' packet' hprobe')).symm
    exact decide_congr (hprobe.trans hprobe'.symm) hdestination hprotocol heq
  · intro packet header uid payloadSize
    exact decide_congr rfl rfl rfl rfl

/-- A TCP header behind the protocol number of UDP, and a fragment: both go where UDP packets without
ports go.  And two probes for the same address, whatever they carry. -/
theorem decide_eq_of_no_ports :
    ∃ t a, Topology.build 3 [(0, 1), (0, 2)] = .ok t ∧
      Arbiter.create 0 t (Resolver.ofEntries [(⟨1⟩, 0), (⟨2⟩, 1)]) #[(1, 1), (2, 1)]
        (Ecmp.mk #[[], [1, 2]] 7) = .ok a ∧
      ToldByPorts ⟨⟨1⟩, ⟨2⟩, 17, 0, false⟩ ⟨5, 100, some (.tcp 80 443)⟩ (0, 0) ∧
      ToldByPorts ⟨⟨1⟩, ⟨2⟩, 17, 3, true⟩ ⟨6, 0, some (.udp 80 443)⟩ (0, 0) ∧
      a.decide ⟨5, 100, some (.tcp 80 443)⟩ ⟨⟨1⟩, ⟨2⟩, 17, 0, false⟩ =
        a.decide ⟨6, 0, some (.udp 80 443)⟩ ⟨⟨1⟩, ⟨2⟩, 17, 3, true⟩ ∧
      a.decide ⟨5, 100, some (.tcp 80 443)⟩ ⟨Ipv4.ofOctets 102 102 102 102, ⟨2⟩, 6, 0, false⟩ =
        a.decide ⟨6, 0, none⟩ ⟨Ipv4.ofOctets 102 102 102 102, ⟨2⟩, 6, 3, true⟩ := by
  have hmismatch : ToldByPorts ⟨⟨1⟩, ⟨2⟩, 17, 0, false⟩ ⟨5, 100, some (.tcp 80 443)⟩ (0, 0) :=
    toldByPorts_iff.mpr (by decide)
  have hfragment : ToldByPorts ⟨⟨1⟩, ⟨2⟩, 17, 3, true⟩ ⟨6, 0, some (.udp 80 443)⟩ (0, 0) :=
    toldByPorts_iff.mpr (by decide)
  refine ⟨_, _, rfl, rfl, hmismatch, hfragment, ?_, ?_⟩
  · exact (decide_eq_of_flow _).1 _ _ _ _ rfl rfl rfl (0, 0) hmismatch hfragment
  · exact (decide_eq_of_flow _).2.1 _ _ _ _ rfl rfl rfl rfl

end Arbiter

end Multipath
