import Multipath.Proofs.Addressing.Ranks
import Multipath.Proofs.Addressing.Slots
import Multipath.Proofs.Network.Send

/-!
# The wiring is a perfect pairing

Every edge has two sides, and the numbers of a plan say at which interface each side ends (`sideAt`).
Under the plan of a topology this is a bijection from the sides of the edges to the slots of the nodes
(`injective_sideAt`, `range_sideAt`): no slot is given out twice, and none is left over.  So the wiring
table pairs the slots of neighbours (`exists_joined_iff`), with one network on each link and the
addresses `.1` and `.2` in it (`Joined.exists_carries`).
-/

namespace Multipath

namespace InterfaceAddress

/-- The network to which an address belongs. -/
def network (a : InterfaceAddress) : Ipv4 :=
  ⟨a.address.bits &&& a.mask.bits⟩

/-- The part of an address that its network leaves open. -/
def hostPart (a : InterfaceAddress) : UInt32 :=
  a.address.bits &&& ~~~a.mask.bits

end InterfaceAddress

variable {t : Topology} {p : AddressPlan} {indices : Array (UInt32 × UInt32)} {v x : NodeId}
variable {u w : LinkEnd} {k k' l l' : UInt32} {link : Edge × ℕ} {host host' : UInt32}

/-- The interface on the first or the second side of an edge. -/
def sideAt (t : Topology) (indices : Array (UInt32 × UInt32)) (h : indices.size = t.edges.length) :
    Fin t.edges.length × Bool → LinkEnd
  | (i, second) =>
    have hi : i.val < indices.size := h.symm ▸ i.isLt
    if second then ⟨t.edges[i].2, indices[i.val].2⟩ else ⟨t.edges[i].1, indices[i.val].1⟩

namespace AddressPlan

theorem mask_linkAddress (i : ℕ) (host : UInt32) : (linkAddress i host).mask = ⟨0xFFFFFF00⟩ := by
  have hprefix : (linkAddress i host).prefixLen = 24 := rfl
  rw [InterfaceAddress.mask, hprefix]
  rfl

/-- All addresses on a link belong to one network. -/
theorem network_linkAddress (i : ℕ) (hhost : host &&& 0xFFFFFF00 = 0)
    (hhost' : host' &&& 0xFFFFFF00 = 0) :
    (linkAddress i host).network = (linkAddress i host').network := by
  have hopen : ∀ {base host : UInt32}, host &&& 0xFFFFFF00 = 0 →
      (base ||| host) &&& 0xFFFFFF00 = base &&& 0xFFFFFF00 := by
    intro base host hhost
    rw [← UInt32.toNat_inj, UInt32.toNat_and, UInt32.toNat_or, Nat.and_or_distrib_right,
      ← UInt32.toNat_and host, hhost, UInt32.toNat_zero, Nat.or_zero, UInt32.toNat_and]
  rw [InterfaceAddress.network, InterfaceAddress.network, mask_linkAddress, mask_linkAddress]
  show Ipv4.mk ((_ ||| host) &&& _) = Ipv4.mk ((_ ||| host') &&& _)
  rw [hopen hhost, hopen hhost']

theorem hostPart_linkAddress (i : ℕ) (hhost : host.toNat < 2 ^ 8) :
    (linkAddress i host).hostPart = host := by
  rw [← UInt32.toNat_inj, InterfaceAddress.hostPart, mask_linkAddress]
  show ((linkAddress i host).address.bits &&& 255).toNat = host.toNat
  rw [UInt32.toNat_and, toNat_linkAddress hhost]
  show _ &&& (2 ^ 8 - 1) = _
  rw [Nat.and_two_pow_sub_one_eq_mod]
  omega

end AddressPlan

/-! ### The sides of the edges -/

/-- A side of an edge is an interface that belongs to this edge. -/
theorem onLink_sideAt (hp : Planned t p) (i : Fin t.edges.length) (second : Bool) :
    OnLink t (sideAt t p.indices hp.size_indices (i, second)) (t.edges[i], i.val) := by
  have he : t.edges[i.val]? = some (t.edges[i].1, t.edges[i].2) := by simp
  obtain ⟨ka, kb, hindices, ha, hb⟩ := hp.exists_indices he
  obtain ⟨hi, hnumbers⟩ := Array.getElem?_eq_some_iff.mp hindices
  cases second with
  | false => simpa [sideAt, hnumbers] using ha
  | true => simpa [sideAt, hnumbers] using hb

/-- No two sides end at the same interface. -/
theorem injective_sideAt (hp : Planned t p) :
    (sideAt t p.indices hp.size_indices).Injective := by
  rintro ⟨i, second⟩ ⟨j, second'⟩ heq
  have hi := onLink_sideAt hp i second
  have hj := onLink_sideAt hp j second'
  rw [heq] at hi
  obtain rfl : i = j := Fin.ext (congrArg Prod.snd (hi.link_unique hj))
  have hne : t.edges[i].1 ≠ t.edges[i].2 := hp.consistent.fst_ne_snd (List.getElem_mem _)
  have hnode := congrArg LinkEnd.node heq
  -- the two sides of one edge are at different nodes
  cases second <;> cases second'
  · rfl
  · exact absurd hnode hne
  · exact absurd hnode.symm hne
  · rfl

/-- Every slot is at a side of some edge, and nothing else is. -/
theorem range_sideAt (hp : Planned t p) :
    Set.range (sideAt t p.indices hp.size_indices) = t.linkSlots := by
  ext u
  rw [Topology.mem_linkSlots_iff hp.consistent]
  constructor
  · rintro ⟨⟨i, second⟩, rfl⟩
    exact ⟨_, onLink_sideAt hp i second⟩
  · rintro ⟨⟨e, i⟩, hu⟩
    have he : t.edges[i]? = some e := (mem_linksAt.mp hu.mem).1
    obtain ⟨hi, rfl⟩ := List.getElem?_eq_some_iff.mp he
    rcases hu.node_eq with hfst | hsnd
    · exact ⟨(⟨i, hi⟩, false), (onLink_sideAt hp ⟨i, hi⟩ false).unique hu hfst⟩
    · exact ⟨(⟨i, hi⟩, true), (onLink_sideAt hp ⟨i, hi⟩ true).unique hu hsnd⟩

theorem joined_sideAt (hsize : indices.size = t.edges.length) (i : Fin t.edges.length)
    (second : Bool) :
    Joined t indices (sideAt t indices hsize (i, second)) (sideAt t indices hsize (i, !second)) := by
  have hi : i.val < indices.size := hsize.symm ▸ i.isLt
  refine ⟨(t.edges[i], indices[i.val]), ?_, ?_⟩
  · rw [List.mem_iff_getElem?]
    exact ⟨i.val, by simp [hi]⟩
  · cases second
    · exact Or.inl ⟨rfl, rfl⟩
    · exact Or.inr ⟨rfl, rfl⟩

/-! ### The pairs -/

/-- **Exactly the slots are joined to something.** -/
theorem exists_joined_iff (hp : Planned t p) :
    (∃ w, Joined t p.indices u w) ↔ u ∈ t.linkSlots := by
  constructor
  · rintro ⟨w, hj⟩
    obtain ⟨link, hu, -⟩ := hj.exists_onLink hp
    exact (Topology.mem_linkSlots_iff hp.consistent).mpr ⟨link, hu⟩
  · intro hu
    obtain ⟨⟨i, second⟩, rfl⟩ := range_sideAt hp ▸ hu
    exact ⟨_, joined_sideAt hp.size_indices i second⟩

namespace Joined

variable (hp : Planned t p)
include hp

/-- One interface leads to each neighbour. -/
theorem index_unique (hj : Joined t p.indices ⟨v, k⟩ ⟨x, k'⟩)
    (hj' : Joined t p.indices ⟨v, l⟩ ⟨x, l'⟩) : k = l := by
  have hkl : ¬ k < l := fun hlt => UInt32.lt_irrefl x ((hj.lt_iff_lt hp hj').mpr hlt)
  have hlk : ¬ l < k := fun hlt => UInt32.lt_irrefl x ((hj'.lt_iff_lt hp hj).mpr hlt)
  rw [UInt32.lt_iff_toNat_lt] at hkl hlk
  exact UInt32.toNat_inj.mp (by omega)

/-- Joined interfaces have the two addresses of one network, `.1` on the lower node. -/
theorem exists_carries (hj : Joined t p.indices u w) : ∃ a b,
    p.Carries u.node u.index.toNat a ∧ p.Carries w.node w.index.toNat b ∧
      a.network = b.network ∧ a.hostPart = (if u.node < w.node then 1 else 2) ∧
      b.hostPart = if w.node < u.node then 1 else 2 := by
  obtain ⟨link, hu, hw⟩ := hj.exists_onLink hp
  have hc := hp.consistent
  have hne : u.node ≠ w.node := (hj.adj hc).ne
  have hopen : ∀ v, ownHost v link.1 &&& 0xFFFFFF00 = 0 := by
    intro v
    unfold ownHost
    split <;> decide
  refine ⟨_, _, hp.carries_of_onLink hu, hp.carries_of_onLink hw, ?_, ?_, ?_⟩
  · exact AddressPlan.network_linkAddress link.2 (hopen _) (hopen _)
  · exact (AddressPlan.hostPart_linkAddress _ (ownHost_lt _ _)).trans (hu.ownHost_eq hc hw hne)
  · exact (AddressPlan.hostPart_linkAddress _ (ownHost_lt _ _)).trans (hw.ownHost_eq hc hu hne.symm)

end Joined

theorem Network.wiring_of_build {net : Network} (h : Network.build t = .ok net) :
    ∃ p, AddressPlan.assign t = (.ok p : Except (Failure TopologyError) AddressPlan) ∧
      net.wiring = Network.wire t p := by
  obtain ⟨p, hplan, h⟩ := bind_eq_ok.mp h
  obtain ⟨arbiters, -, h⟩ := bind_eq_ok.mp h
  obtain ⟨routers, -, h⟩ := bind_eq_ok.mp h
  obtain rfl := Except.ok.inj h
  exact ⟨p, mapError_eq_ok.mp hplan, rfl⟩

/-- **The wiring is a perfect pairing.**  A node of a built topology has loop-back and one more
interface for each of its neighbours.  The sides of the edges end at these interfaces, each at a
different one, and none is left over.

The wiring table of the network, which is built unless there are too many nodes, is defined on
exactly these interfaces.  It pairs them: it is its own inverse and leaves none to itself.  An
interface is paired with one of a neighbour, each neighbour is reached from one interface, and the
two addresses of a pair are those of one network, `.1` on the lower node and `.2` on the higher. -/
theorem pairing_of_build {numNodes : UInt64} {edges : List Edge} {endpoints : List NodeId}
    (h : Topology.build numNodes edges endpoints = .ok t) (hn : numNodes.toNat < 2 ^ 32) :
    ∃ p, AddressPlan.assign t = (.ok p : Except (Failure TopologyError) AddressPlan) ∧
      (∀ v : NodeId, v.toNat < numNodes.toNat → ∃ neighbors own,
        t.neighbors v = (.ok neighbors : Except (Failure TopologyError) NodeSet) ∧
        p.interfacesOf v = (.ok own : Except (Failure TopologyError) _) ∧
        own.size = 1 + neighbors.size ∧ own[0]? = some ⟨Ipv4.ofOctets 127 0 0 1, 8⟩ ∧
        ∀ k a, 1 ≤ k → own[k]? = some a → a.prefixLen = 24) ∧
      (∃ hsize : p.indices.size = t.edges.length, (sideAt t p.indices hsize).Injective ∧
        Set.range (sideAt t p.indices hsize) = t.linkSlots) ∧
      (∀ net, Network.build t = .ok net → net.wiring = Network.wire t p) ∧
      (numNodes.toNat ≤ 40000 → ∃ net, Network.build t = .ok net) ∧
      (∀ u : LinkEnd, (∃ w, (Network.wire t p)[u]? = some w) ↔ u ∈ t.linkSlots) ∧
      (∀ u w : LinkEnd, (Network.wire t p)[u]? = some w →
        (Network.wire t p)[w]? = some u ∧ w ≠ u ∧ (linkGraph edges).Adj u.node w.node ∧
          ∃ a b, p.Carries u.node u.index.toNat a ∧ p.Carries w.node w.index.toNat b ∧
            a.network = b.network ∧ a.hostPart = (if u.node < w.node then 1 else 2) ∧
            b.hostPart = if w.node < u.node then 1 else 2) ∧
      ∀ v x, (linkGraph edges).Adj v x →
        ∃! k, ∃ k', (Network.wire t p)[(⟨v, k⟩ : LinkEnd)]? = some ⟨x, k'⟩ := by
  have hc := Topology.consistent_of_build h
  have hsize := Topology.size_of_build h
  obtain ⟨p, hplan, hp⟩ := exists_planned (ε := TopologyError) hc (hsize.trans_lt hn)
  rw [← Topology.graph_of_build h, ← hsize]
  refine ⟨p, hplan, ?_⟩
  simp only [getElem?_wire_iff hp]
  refine ⟨?_, ⟨hp.size_indices, injective_sideAt hp, range_sideAt hp⟩, ?_, ?_,
    fun u => exists_joined_iff hp, ?_, ?_⟩
  · intro v hv
    obtain ⟨neighbors, hneighbors, -⟩ := hc.exists_neighbors (ε := TopologyError) hv
    have hown := hp.interfaces_eq hv
    refine ⟨neighbors, _, hneighbors, by rw [AddressPlan.interfacesOf, Failure.read, hown], ?_, rfl,
      ?_⟩
    · simp [Topology.size_neighbors hc hneighbors, length_linksAt, Nat.add_comm]
    · intro k a hk ha
      obtain ⟨k, rfl⟩ := Nat.exists_eq_add_of_le' hk
      obtain ⟨link, -, rfl⟩ := hp.carries_succ_iff.mp ⟨_, hown, ha⟩
      rfl
  · intro net hnet
    obtain ⟨p', hplan', hwiring⟩ := Network.wiring_of_build hnet
    rw [hwiring, Except.ok.inj (hplan.symm.trans hplan')]
  · intro hmax
    obtain ⟨net, -, -, hnet, -⟩ := Network.exists_operating hc (hsize.trans_lt hn)
      (UInt64.le_iff_toNat_le.mpr hmax)
    exact ⟨net, hnet⟩
  · intro u w hj
    refine ⟨hj.symm, ?_, hj.adj hc, hj.exists_carries hp⟩
    rintro rfl
    exact (hj.adj hc).ne rfl
  · intro v x hadj
    obtain ⟨k, k', hj⟩ := exists_joined hc hp.size_indices hadj
    refine ⟨k, ⟨k', hj⟩, ?_⟩
    rintro l ⟨l', hj'⟩
    exact hj'.index_unique hp hj

/-- Three nodes in a row.  The node in the middle is wired to each of the others over one interface,
and the first node has no second slot. -/
theorem pairing_in_a_row :
    ∃ t p, Topology.build 3 [(1, 2), (0, 1)] = .ok t ∧ (3 : UInt64).toNat < 2 ^ 32 ∧
      AddressPlan.assign t = (.ok p : Except (Failure TopologyError) AddressPlan) ∧
      (∃ hsize : p.indices.size = t.edges.length, (sideAt t p.indices hsize).Injective ∧
        Set.range (sideAt t p.indices hsize) = t.linkSlots) ∧
      (∃! k, ∃ k', (Network.wire t p)[(⟨1, k⟩ : LinkEnd)]? = some ⟨0, k'⟩) ∧
      (∃! k, ∃ k', (Network.wire t p)[(⟨1, k⟩ : LinkEnd)]? = some ⟨2, k'⟩) ∧
      ¬ ∃ w, (Network.wire t p)[(⟨0, 2⟩ : LinkEnd)]? = some w := by
  obtain ⟨t, ht, hdegree⟩ : ∃ t, Topology.build 3 [(1, 2), (0, 1)] = .ok t ∧
      (t.incident 0).length = 1 := ⟨_, rfl, rfl⟩
  obtain ⟨p, hplan, -, hsides, -, -, hslots, -, hneighbors⟩ := pairing_of_build ht (by decide)
  refine ⟨t, p, ht, by decide, hplan, hsides, hneighbors 1 0 (linkGraph_adj.mpr (by decide)),
    hneighbors 1 2 (linkGraph_adj.mpr (by decide)), ?_⟩
  rw [hslots]
  rintro ⟨neighbors, hread, -, hle⟩
  rw [Topology.size_neighbors (Topology.consistent_of_build ht) hread, hdegree] at hle
  exact absurd hle (by decide)

end Multipath
