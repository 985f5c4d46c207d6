import Multipath.Proofs.Network.Wiring

/-!
# Interface numbers and the order of the neighbours

A node numbers its links in the order in which its edges are wired, and the edges are sorted.  So its
links come in the order of the nodes at their other ends: interface `k` leads to the neighbour at
place `k - 1` among all neighbours (`Joined.getElem?_incident`), and comparing neighbours is the same
thing as comparing the interfaces that lead to them (`Joined.lt_iff_lt`).
-/

namespace Multipath

variable {t : Topology} {p : AddressPlan} {v x y : NodeId} {k k' l l' : UInt32}

theorem farEnd_eq (hne : v ≠ x) {e : Edge} (hv : e.1 = v ∨ e.2 = v) (hx : e.1 = x ∨ e.2 = x) :
    farEnd v e = x := by
  unfold farEnd
  split
  case isTrue h => exact hx.resolve_left fun hfst => hne (h.symm.trans hfst)
  case isFalse h => exact hx.resolve_right fun hsnd => hne ((hv.resolve_left h).symm.trans hsnd)

/-- In an increasing list, elements are compared by comparing their places. -/
theorem lt_iff_of_pairwise {nodes : List NodeId} {i j : ℕ} (h : nodes.Pairwise (· < ·))
    (hi : nodes[i]? = some x) (hj : nodes[j]? = some y) : x < y ↔ i < j := by
  obtain ⟨hilt, rfl⟩ := List.getElem?_eq_some_iff.mp hi
  obtain ⟨hjlt, rfl⟩ := List.getElem?_eq_some_iff.mp hj
  rw [List.pairwise_iff_getElem] at h
  constructor
  · intro hlt
    by_contra hge
    rcases Nat.eq_or_lt_of_le (Nat.not_lt.mp hge) with rfl | hji
    · exact UInt32.lt_irrefl _ hlt
    · exact UInt32.lt_asymm hlt (h j i hjlt hilt hji)
  · exact h i j hilt hjlt

namespace Joined

variable (hp : Planned t p)
include hp

/-- Interface `k` leads to the neighbour at place `k - 1`. -/
theorem getElem?_incident (hj : Joined t p.indices ⟨v, k⟩ ⟨x, k'⟩) :
    (t.incident v)[k.toNat - 1]? = some x := by
  obtain ⟨link, hv, hx⟩ := hj.exists_onLink hp
  rw [incident_eq_map, List.getElem?_map, hv.slot, Option.map_some,
    farEnd_eq (hj.adj hp.consistent).ne hv.node_eq hx.node_eq]

theorem pos (hj : Joined t p.indices ⟨v, k⟩ ⟨x, k'⟩) : 0 < k.toNat := by
  obtain ⟨link, hv, -⟩ := hj.exists_onLink hp
  have hnum := hv.toNat_index
  simp only at hnum
  omega

/-- **The order of the neighbours is the order of the interfaces that lead to them.** -/
theorem lt_iff_lt (hx : Joined t p.indices ⟨v, k⟩ ⟨x, k'⟩)
    (hy : Joined t p.indices ⟨v, l⟩ ⟨y, l'⟩) : x < y ↔ k < l := by
  have hk := hx.pos hp
  have hl := hy.pos hp
  rw [lt_iff_of_pairwise (Topology.incident_sorted hp.consistent) (hx.getElem?_incident hp)
    (hy.getElem?_incident hp), UInt32.lt_iff_toNat_lt]
  omega

end Joined

end Multipath
