import Mathlib.Data.List.ProdSigma
import Mathlib.Data.Set.Card
import Multipath.Proofs.Candidates.ShortestPaths

/-!
# The warning about disconnected topologies

The number in the warning is counted in the table of distances, while the lists of candidates are
made from the edges.  Both speak about the same pairs of nodes: `apart` are those that no walk joins,
`stuck` are those for which a node has no candidate although it is not the destination itself
(`stuck_eq_apart`).  The warning tells how many they are, and it is left out if there are none
(`disconnection_report_of_build`).
-/

namespace Multipath

variable {t : Topology} {d : DistanceTable} {q : NodeId × NodeId} {params : Params}

/-- The ordered pairs of the first `n` nodes that no walk joins. -/
def apart (G : SimpleGraph NodeId) (n : ℕ) : Set (NodeId × NodeId) :=
  {q | q.1.toNat < n ∧ q.2.toNat < n ∧ ¬ G.Reachable q.1 q.2}

/-- The ordered pairs of two of the first `n` nodes for which the table lists no candidate. -/
def stuck (c : CandidateTable) (n : ℕ) : Set (NodeId × NodeId) :=
  {q | q.1.toNat < n ∧ q.2.toNat < n ∧ q.1 ≠ q.2 ∧
    c.get q.1 q.2 = (.ok [] : Except (Failure Unit) _)}

/-! ### Counting pairs of nodes -/

theorem countP_eq_ncard {α : Type} {l : List α} (h : l.Nodup) (p : α → Bool) :
    l.countP p = {a | a ∈ l ∧ p a = true}.ncard := by
  classical
  rw [List.countP_eq_length_filter, ← List.toFinset_card_of_nodup (h.filter p),
    ← Set.ncard_coe_finset]
  simp

theorem Topology.mem_pairs (hn : t.size < 2 ^ 32) :
    q ∈ t.pairs ↔ q.1.toNat < t.size ∧ q.2.toNat < t.size := by
  rw [← mem_nodes hn, ← mem_nodes hn]
  exact List.mem_product

theorem Topology.nodup_pairs (hn : t.size < 2 ^ 32) : t.pairs.Nodup :=
  (nodup_nodes hn).product (nodup_nodes hn)

theorem unreachablePairs_eq_ncard (hn : t.size < 2 ^ 32) (hd : d.Exact t) :
    unreachablePairs t d = (apart t.graph t.size).ncard := by
  rw [unreachablePairs, countP_eq_ncard (Topology.nodup_pairs hn)]
  congr 1
  ext ⟨a, b⟩
  simp only [apart, Set.mem_ofPred_eq, Topology.mem_pairs hn, beq_iff_eq, and_assoc]
  refine and_congr_right fun ha => and_congr_right fun hb => ?_
  exact hd.distance_eq_unreachable_iff ha hb

theorem unreachablePairs_eq_zero_iff (hn : t.size < 2 ^ 32) (hd : d.Exact t) :
    unreachablePairs t d = 0 ↔
      ∀ a b : NodeId, a.toNat < t.size → b.toNat < t.size → t.graph.Reachable a b := by
  simp only [unreachablePairs, List.countP_eq_zero, Prod.forall, Topology.mem_pairs hn, beq_iff_eq,
    and_imp]
  refine forall₂_congr fun a b => forall₂_congr fun ha hb => ?_
  rw [hd.distance_eq_unreachable_iff ha hb, not_not]

namespace CandidateTable

/-- **Nodes are stuck exactly where no walk leads on.** -/
theorem stuck_eq_apart (h : t.Consistent) (hn : t.size < 2 ^ 32) (hd : d.Exact t) :
    stuck (ofDistances t d) t.size = apart t.graph t.size := by
  ext ⟨a, b⟩
  refine and_congr_right fun ha => and_congr_right fun hb => ?_
  simp only
  rw [get_ofDistances hn ha hb, Except.ok.injEq, candidatesOf_eq_nil_iff h hd ha hb]
  constructor
  · rintro ⟨hne, heq | hapart⟩
    · exact absurd heq.symm hne
    · exact hapart
  · intro hapart
    refine ⟨?_, Or.inr hapart⟩
    rintro rfl
    exact hapart (SimpleGraph.Reachable.refl a)

/-- **The report agrees with the tables.**  The pairs of nodes that no walk joins are as many as the
pairs of two nodes without a candidate.  If there are any, their number is in the only warning
that is left, also in its text; if all nodes are joined, there is no warning. -/
theorem disconnection_report_of_build {numNodes : UInt64} {edges : List Edge}
    {endpoints : List NodeId} (h : Topology.build numNodes edges endpoints = .ok t)
    (hn : numNodes.toNat < 2 ^ 32) (hmax : numNodes ≤ params.maxNodes) :
    ∃ c N, (compute t params).value = .ok c ∧
      N = (apart (linkGraph edges) numNodes.toNat).ncard ∧
      N = (stuck c numNodes.toNat).ncard ∧
      ((compute t params).log.filter fun r => r.level = .warn) =
        (if 0 < N then [.disconnected N] else []) ∧
      ((compute t params).log.filter fun r => r.level = .warn).map LogRecord.text =
        (if 0 < N then [s!"Topology is disconnected, {N} ordered node pairs have no path"]
          else []) ∧
      (N = 0 ↔ ∀ a b : NodeId, a.toNat < numNodes.toNat → b.toNat < numNodes.toNat →
        (linkGraph edges).Reachable a b) := by
  have hc := Topology.consistent_of_build h
  have hsize := Topology.size_of_build h
  have hlt : t.size < 2 ^ 32 := hsize.trans_lt hn
  have hmax : t.numNodes ≤ params.maxNodes := Topology.numNodes_of_build h ▸ hmax
  obtain ⟨d, hdist, hd⟩ := DistanceTable.compute_total (ε := TopologyError) hc hlt
  rw [← Topology.graph_of_build h, ← hsize, compute_eq hmax hdist]
  refine ⟨ofDistances t d, unreachablePairs t d, rfl, unreachablePairs_eq_ncard hlt hd, ?_, ?_, ?_,
    unreachablePairs_eq_zero_iff hlt hd⟩
  · rw [stuck_eq_apart hc hlt hd]
    exact unreachablePairs_eq_ncard hlt hd
  · split <;> rfl
  · split <;> rfl

/-- Two joined nodes and one beside them. -/
theorem disconnection_report_of_one_link :
    ∃ t, Topology.build 3 [(0, 1)] = .ok t ∧ (3 : UInt64).toNat < 2 ^ 32 ∧
      (3 : UInt64) ≤ ({} : Params).maxNodes ∧
      ∃ c N, (compute t {}).value = .ok c ∧ N = (apart (linkGraph [(0, 1)]) 3).ncard ∧
        N = (stuck c 3).ncard ∧
        ((compute t {}).log.filter fun r => r.level = .warn) =
          (if 0 < N then [.disconnected N] else []) ∧
        ((compute t {}).log.filter fun r => r.level = .warn).map LogRecord.text =
          if 0 < N then [s!"Topology is disconnected, {N} ordered node pairs have no path"]
          else [] := by
  have ht : Topology.build 3 [(0, 1)] [] = .ok _ := rfl
  have hmax : (3 : UInt64) ≤ ({} : Params).maxNodes := by decide
  obtain ⟨c, N, hcompute, hapart, hstuck, hlog, htext, -⟩ :=
    disconnection_report_of_build ht (by decide) hmax
  exact ⟨_, ht, by decide, hmax, c, N, hcompute, hapart, hstuck, hlog, htext⟩

example : ((Topology.build 3 [(0, 1)]).map fun t => (compute t {}).log) = .ok [.disconnected 4] := by
  rfl

end CandidateTable

end Multipath
