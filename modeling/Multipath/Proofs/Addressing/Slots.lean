import Multipath.Proofs.Addressing.Ownership

/-!
# The slots of a node

A node numbers its links from one up, so it has a slot for each neighbour.  `Topology.linkSlots` are
the slots of all nodes; they do not depend on any plan.  A slot is the same thing as an interface that
belongs to a link (`Topology.mem_linkSlots_iff`), and the plan of the topology puts into it the address
of that link (`Planned.carries_succ_iff`).
-/

namespace Multipath

variable {t : Topology} {p : AddressPlan} {v : NodeId} {u w : LinkEnd} {link : Edge × ℕ}
variable {k : ℕ} {a : InterfaceAddress} {ip : Ipv4}

/-- At each node the numbers from one up to the number of its neighbours. -/
def Topology.linkSlots (t : Topology) : Set LinkEnd :=
  {u | ∃ neighbors, t.neighbors u.node = (.ok neighbors : Except (Failure Unit) NodeSet) ∧
    1 ≤ u.index.toNat ∧ u.index.toNat ≤ neighbors.size}

/-- The plan gives the interface `k` of `v` the address `a`. -/
def AddressPlan.Carries (p : AddressPlan) (v : NodeId) (k : ℕ) (a : InterfaceAddress) : Prop :=
  ∃ own, p.interfaces[v.toNat]? = some own ∧ own[k]? = some a

/-! ### Slots and links -/

theorem OnLink.one_le (hu : OnLink t u link) : 1 ≤ u.index.toNat := by
  have hnum := hu.toNat_index
  omega

theorem lt_size_of_mem_linksAt (h : t.Consistent) (hlink : link ∈ linksAt t.numbered v) :
    v.toNat < t.size := by
  obtain ⟨hedge, hv⟩ := mem_linksAt.mp hlink
  have he : link.1 ∈ t.edges := List.mem_of_getElem? hedge
  rcases hv with rfl | rfl
  · exact h.fst_lt_size he
  · exact h.inRange _ he

/-- **The slots are the interfaces that belong to links.** -/
theorem Topology.mem_linkSlots_iff (h : t.Consistent) :
    u ∈ t.linkSlots ↔ ∃ link, OnLink t u link := by
  constructor
  · rintro ⟨neighbors, hneighbors, hpos, hle⟩
    rw [Topology.size_neighbors h hneighbors, ← length_linksAt] at hle
    refine ⟨_, ?_, List.getElem?_eq_getElem (by omega)⟩
    rintro h0
    rw [h0] at hpos
    exact absurd hpos (by decide)
  · rintro ⟨link, hu⟩
    obtain ⟨neighbors, hneighbors, -⟩ :=
      h.exists_neighbors (ε := Unit) (lt_size_of_mem_linksAt h hu.mem)
    refine ⟨neighbors, hneighbors, hu.one_le, ?_⟩
    have hlt := (List.getElem?_eq_some_iff.mp hu.slot).1
    rw [Topology.size_neighbors h hneighbors, ← length_linksAt]
    omega

/-- A link is the edge between the two nodes that are on it. -/
theorem OnLink.edge_eq_normalize (h : t.Consistent) (hu : OnLink t u link) (hw : OnLink t w link)
    (hne : u.node ≠ w.node) : link.1 = Edge.normalize (u.node, w.node) := by
  have hlt : link.1.1 < link.1.2 := h.ordered _ (List.mem_of_getElem? (mem_linksAt.mp hu.mem).1)
  rcases hu.node_eq with hfst | hsnd
  · have hother : link.1.2 = w.node := hw.node_eq.resolve_left fun hw => hne (hfst.symm.trans hw)
    rw [hfst, hother] at hlt
    rw [Edge.normalize, if_pos (UInt32.le_of_lt hlt), ← hfst, ← hother]
  · have hother : link.1.1 = w.node := hw.node_eq.resolve_right fun hw => hne (hsnd.symm.trans hw)
    rw [hsnd, hother] at hlt
    rw [Edge.normalize, if_neg (UInt32.not_le.mpr hlt), ← hsnd, ← hother]

/-- The lower end of a link has the address `.1`, the higher end `.2`. -/
theorem OnLink.ownHost_eq (h : t.Consistent) (hu : OnLink t u link) (hw : OnLink t w link)
    (hne : u.node ≠ w.node) : ownHost u.node link.1 = if u.node < w.node then 1 else 2 := by
  rw [hu.edge_eq_normalize h hw hne, ownHost, Edge.normalize]
  by_cases hlt : u.node < w.node
  · rw [if_pos (UInt32.le_of_lt hlt), if_pos rfl, if_pos hlt]
  · have hgt : ¬ u.node ≤ w.node := fun hle => hlt (UInt32.lt_of_le_of_ne hle hne)
    rw [if_neg hgt, if_neg hne.symm, if_neg hlt]

/-! ### What a plan puts into the slots -/

theorem AddressPlan.isLinkAddress_iff_carries :
    p.IsLinkAddress v ip ↔ ∃ k a, p.Carries v (k + 1) a ∧ a.address = ip := by
  simp only [IsLinkAddress, Carries, List.mem_iff_getElem?, List.getElem?_drop,
    Array.getElem?_toList, Nat.add_comm 1]
  constructor
  · rintro ⟨own, hown, a, ⟨k, ha⟩, hip⟩
    exact ⟨k, a, ⟨own, hown, ha⟩, hip⟩
  · rintro ⟨k, a, ⟨own, hown, ha⟩, hip⟩
    exact ⟨own, hown, a, ⟨k, ha⟩, hip⟩

theorem AddressPlan.isLinkAddress_iff_exists_carries :
    p.IsLinkAddress v ip ↔ ∃ k a, 1 ≤ k ∧ p.Carries v k a ∧ a.address = ip := by
  rw [isLinkAddress_iff_carries]
  constructor
  · rintro ⟨k, a, ha, hip⟩
    exact ⟨k + 1, a, Nat.le_add_left 1 k, ha, hip⟩
  · rintro ⟨k, a, hk, ha, hip⟩
    obtain ⟨k, rfl⟩ := Nat.exists_eq_add_of_le' hk
    exact ⟨k, a, ha, hip⟩

namespace Planned

theorem carries_succ_iff (hp : Planned t p) : p.Carries v (k + 1) a ↔
    ∃ link, (linksAt t.numbered v)[k]? = some link ∧ ownAddress v link = a := by
  constructor
  · rintro ⟨own, hown, ha⟩
    have hv : v.toNat < t.size :=
      hp.realizes.size_interfaces ▸ (Array.getElem?_eq_some_iff.mp hown).1
    obtain rfl := Option.some.inj ((hp.interfaces_eq hv).symm.trans hown)
    simpa using ha
  · rintro ⟨link, hlink, rfl⟩
    have hv := lt_size_of_mem_linksAt hp.consistent (List.mem_of_getElem? hlink)
    exact ⟨_, hp.interfaces_eq hv, by simp [hlink]⟩

/-- A slot has the address of its link. -/
theorem carries_of_onLink (hp : Planned t p) (hu : OnLink t u link) :
    p.Carries u.node u.index.toNat (ownAddress u.node link) := by
  rw [hu.toNat_index, hp.carries_succ_iff]
  exact ⟨link, hu.slot, rfl⟩

end Planned

end Multipath
