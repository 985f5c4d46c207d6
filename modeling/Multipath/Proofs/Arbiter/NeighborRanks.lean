import Multipath.Arbiter.Static
import Multipath.Proofs.Addressing.Ranks
import Multipath.Proofs.Addressing.Slots
import Multipath.Proofs.Arbiter.Links
import Multipath.Proofs.Candidates.Disconnected
import Multipath.Proofs.Topology.Views

/-!
# Interface numbers are ranks

An arbiter that is made from the plan of its topology can be made for every node, and the interface
that leads to a neighbour is known without running through the edges: its number is one more than the
number of smaller neighbours (`ranks_of_build`).  The reason is that the edges are sorted, so those to
lower neighbours come before those to higher ones although the node is their second end.
-/

namespace Multipath

variable {π : Type} {t : Topology} {p : AddressPlan} {v x : NodeId} {k k' : UInt32}

/-- In an increasing list, so many elements are smaller than another as stand before it. -/
theorem countP_lt_of_pairwise {nodes : List NodeId} {i : ℕ} (h : nodes.Pairwise (· < ·))
    (hi : nodes[i]? = some x) : nodes.countP (fun y => y < x) = i := by
  induction nodes generalizing i with
  | nil => simp at hi
  | cons z nodes ih =>
      obtain ⟨hz, hnodes⟩ := List.pairwise_cons.mp h
      cases i with
      | zero =>
          obtain rfl : z = x := by simpa using hi
          rw [List.countP_eq_zero]
          intro y hy
          rcases List.mem_cons.mp hy with rfl | hy
          · simp
          · simpa using UInt32.le_of_lt (hz y hy)
      | succ i =>
          have hi : nodes[i]? = some x := by simpa using hi
          rw [List.countP_cons_of_pos (by simpa using hz x (List.mem_of_getElem? hi)), ih hnodes hi]

/-- The number of an interface tells how many neighbours are smaller than the one it leads to. -/
theorem Joined.toNat_index (hp : Planned t p) (hj : Joined t p.indices ⟨v, k⟩ ⟨x, k'⟩) :
    k.toNat = 1 + {y | t.graph.Adj v y ∧ y < x}.ncard := by
  have hsorted := Topology.incident_sorted (a := v) hp.consistent
  have hcount := countP_lt_of_pairwise hsorted (hj.getElem?_incident hp)
  rw [countP_eq_ncard (hsorted.imp UInt32.ne_of_lt)] at hcount
  simp only [Topology.mem_incident hp.consistent, decide_eq_true_eq] at hcount
  have hpos := hj.pos hp
  omega

/-- Under the plan of its topology, every node can be given an arbiter. -/
theorem Planned.exists_ofPlan (hp : Planned t p) (hv : v.toNat < t.size) (policy : π) :
    ∃ a, Arbiter.ofPlan v t p policy = .ok a ∧ ∀ (y : NodeId) (l : LinkIndex),
      a.linkTo y = some l ↔ ∃ k', Joined t p.indices ⟨v, l.val⟩ ⟨y, k'⟩ := by
  obtain ⟨links, hlinks, hlink⟩ := InterfaceMap.ofEdges_total hp.consistent hv hp.size_indices
    fun y k k' hj => by
      obtain ⟨link, hu, -⟩ := hj.exists_onLink hp
      exact hu.ne_zero
  refine ⟨⟨v, t, p.resolver, links, policy⟩, ?_, hlink⟩
  rw [Arbiter.ofPlan, Arbiter.create, hlinks]
  rfl

/-- **Interface numbers are ranks.**  Under the plan of a built topology, every node gets an arbiter
for any policy.  The arbiter leads to each neighbour `x` over the interface whose number is one more
than the number of neighbours smaller than `x`, and this interface has the address of the node on the
edge between the two.  To anything else it leads over no interface. -/
theorem ranks_of_build {ε : Type} {numNodes : UInt64} {edges : List Edge}
    {endpoints : List NodeId} (h : Topology.build numNodes edges endpoints = .ok t)
    (hn : numNodes.toNat < 2 ^ 32) (hv : v.toNat < numNodes.toNat) (policy : π) :
    ∃ p a, AddressPlan.assign t = (.ok p : Except (Failure ε) AddressPlan) ∧
      Arbiter.ofPlan v t p policy = .ok a ∧
      (∀ x, (linkGraph edges).Adj v x → ∃ link i, a.linkTo x = some link ∧
        link.val.toNat = 1 + {y | (linkGraph edges).Adj v y ∧ y < x}.ncard ∧
        t.edges[i]? = some (min v x, max v x) ∧
        p.Carries v link.val.toNat (AddressPlan.linkAddress i (if v < x then 1 else 2))) ∧
      (∀ x, ¬ (linkGraph edges).Adj v x → a.linkTo x = none) ∧
      ∀ x, x = v ∨ numNodes.toNat ≤ x.toNat → a.linkTo x = none := by
  have hc := Topology.consistent_of_build h
  have hsize := Topology.size_of_build h
  obtain ⟨p, hplan, hp⟩ := exists_planned (ε := ε) hc (hsize.trans_lt hn)
  obtain ⟨a, ha, hlink⟩ := hp.exists_ofPlan (hsize ▸ hv) policy
  rw [← Topology.graph_of_build h, ← hsize]
  have hnone : ∀ x, ¬ t.graph.Adj v x → a.linkTo x = none :=
    fun x => eq_none_of_not_adj hc fun l => (hlink x l).mp
  refine ⟨p, a, hplan, ha, ?_, hnone, ?_⟩
  · intro x hadj
    obtain ⟨k, k', hj⟩ := exists_joined hc hp.size_indices hadj
    obtain ⟨link, hu, hw⟩ := hj.exists_onLink hp
    refine ⟨⟨k, hu.ne_zero⟩, link.2, (hlink x _).mpr ⟨k', hj⟩, hj.toNat_index hp, ?_, ?_⟩
    · rw [(mem_linksAt.mp hu.mem).1, hu.edge_eq_normalize hc hw hadj.ne,
        Edge.normalize_eq_min_max]
    · rw [← hu.ownHost_eq hc hw hadj.ne]
      exact hp.carries_of_onLink hu
  · rintro x (rfl | hx)
    · exact hnone x (SimpleGraph.irrefl _)
    · exact hnone x fun hadj => absurd (hc.adj_lt_size hadj) (Nat.not_lt.mpr hx)

/-- A star around node 2.  The way to node 3 is over the interface 3, since two neighbours are
smaller, although the link to node 3 was given first. -/
theorem ranks_in_star :
    ∃ t p a link, Topology.build 4 [(2, 3), (2, 0), (1, 2)] = .ok t ∧
      (4 : UInt64).toNat < 2 ^ 32 ∧ (2 : NodeId).toNat < (4 : UInt64).toNat ∧
      AddressPlan.assign t = (.ok p : Except (Failure Unit) AddressPlan) ∧
      Arbiter.ofPlan 2 t p (StaticChoice.mk none) = .ok a ∧ a.linkTo 3 = some link ∧
      link.val.toNat =
        1 + {y | (linkGraph [(2, 3), (2, 0), (1, 2)]).Adj 2 y ∧ y < 3}.ncard ∧
      p.Carries 2 link.val.toNat ⟨Ipv4.ofOctets 10 0 2 1, 24⟩ ∧
      a.linkTo 2 = none ∧ a.linkTo 4 = none := by
  obtain ⟨t, ht, hedges⟩ : ∃ t, Topology.build 4 [(2, 3), (2, 0), (1, 2)] = .ok t ∧
      t.edges = [(0, 2), (1, 2), (2, 3)] := ⟨_, rfl, rfl⟩
  obtain ⟨p, a, hplan, ha, hadj, -, hnone⟩ :=
    ranks_of_build (ε := Unit) ht (by decide) (v := 2) (by decide) (StaticChoice.mk none)
  obtain ⟨link, i, hlink, hrank, hedge, hcarries⟩ := hadj 3 (linkGraph_adj.mpr (by decide))
  have hi : i = 2 := by
    have hlast : t.edges[2]? = some (min 2 3, max 2 3) := by rw [hedges]; rfl
    have hlt : 2 < t.edges.length := by rw [hedges]; decide
    exact ((List.getElem?_inj hlt (Topology.consistent_of_build ht).nodup).mp
      (hlast.trans hedge.symm)).symm
  subst hi
  exact ⟨t, p, a, link, ht, by decide, by decide, hplan, ha, hlink, hrank, hcarries,
    hnone 2 (Or.inl rfl), hnone 4 (Or.inr (by decide))⟩

end Multipath
