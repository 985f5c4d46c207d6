import Multipath.Candidates
import Multipath.Proofs.Candidates.Descent
import Multipath.Proofs.Distance.Shortest

/-!
# Candidates and shortest paths

The candidates of a node are its neighbours that are one hop closer to the destination
(`mem_candidatesOf`).  Together with the facts about descending lists this says that the table
describes the shortest paths, all of them and nothing else (`shortest_paths_of_build`).
-/

namespace Multipath

variable {t : Topology} {d : DistanceTable} {x y dest : NodeId}

theorem DistanceTable.Exact.leadsTo_iff (hd : d.Exact t) (hx : x.toNat < t.size)
    (hy : y.toNat < t.size) (hdest : dest.toNat < t.size) (hadj : t.graph.Adj x y) :
    d.leadsTo dest x y = true ↔ t.graph.dist y dest + 1 = t.graph.dist x dest := by
  rw [leadsTo, Distance.isOneCloser_iff, hd.hops_distance y dest hy hdest,
    hd.hops_distance x dest hx hdest]
  constructor
  · rintro ⟨m, hm, hm'⟩
    rw [SimpleGraph.dist, SimpleGraph.dist, hm, hm']
    rfl
  · intro h
    have hr : t.graph.Reachable x dest := SimpleGraph.Reachable.of_dist_ne_zero (by omega)
    have hr' : t.graph.Reachable y dest := hadj.symm.reachable.trans hr
    exact ⟨_, hr'.coe_dist_eq_edist.symm, by rw [h, hr.coe_dist_eq_edist]⟩

/-- **The candidates are the neighbours one hop closer to the destination.** -/
theorem mem_candidatesOf (h : t.Consistent) (hd : d.Exact t) (hx : x.toNat < t.size)
    (hdest : dest.toNat < t.size) : y ∈ candidatesOf t d x dest ↔ Closer t.graph dest x y := by
  rw [candidatesOf, List.mem_filter, Topology.mem_incident h]
  exact and_congr_right fun hadj => hd.leadsTo_iff hx (h.adj_lt_size hadj) hdest hadj

/-- On the way there is a candidate, whatever number selects it. -/
theorem exists_candidate (h : t.Consistent) (hd : d.Exact t) (hx : x.toNat < t.size)
    (hdest : dest.toNat < t.size) (hr : t.graph.Reachable x dest) (hne : x ≠ dest) (number : ℕ) :
    ∃ y, (candidatesOf t d x dest)[number % (candidatesOf t d x dest).length]? = some y ∧
      Closer t.graph dest x y := by
  obtain ⟨z, hz⟩ := exists_closer hr hne
  have hpos : 0 < (candidatesOf t d x dest).length :=
    List.length_pos_of_mem ((mem_candidatesOf h hd hx hdest).mpr hz)
  have hy := List.getElem?_eq_getElem (Nat.mod_lt number hpos)
  exact ⟨_, hy, (mem_candidatesOf h hd hx hdest).mp (List.mem_of_getElem? hy)⟩

/-- **There is no candidate exactly where there is no way on.** -/
theorem candidatesOf_eq_nil_iff (h : t.Consistent) (hd : d.Exact t) (hx : x.toNat < t.size)
    (hdest : dest.toNat < t.size) :
    candidatesOf t d x dest = [] ↔ dest = x ∨ ¬ t.graph.Reachable x dest := by
  simp only [List.eq_nil_iff_forall_not_mem, mem_candidatesOf h hd hx hdest]
  constructor
  · intro hnone
    by_contra hway
    obtain ⟨hne, hreach⟩ := by simpa only [not_or, not_not] using hway
    obtain ⟨y, hcloser⟩ := exists_closer hreach (Ne.symm hne)
    exact hnone y hcloser
  · rintro (rfl | hnot) y hcloser
    · exact hcloser.ne rfl
    · exact hnot hcloser.reachable

namespace CandidateTable

variable {ε : Type} {params : Params}

theorem getElem?_row (hn : t.size < 2 ^ 32) (hdest : dest.toNat < t.size) :
    (row t d x)[dest.toNat]? = some (candidatesOf t d x dest) := by
  simp [row_eq, Topology.getElem?_nodes hn hdest]

theorem get_ofDistances (hn : t.size < 2 ^ 32) (hx : x.toNat < t.size)
    (hdest : dest.toNat < t.size) :
    (ofDistances t d).get x dest = (.ok (candidatesOf t d x dest) : Except (Failure ε) _) := by
  have hrow : (ofDistances t d).rows[x.toNat]? = some (row t d x) := by
    simp [ofDistances, Topology.getElem?_nodes hn hx]
  rw [get, Failure.read, hrow]
  simp only [bind, Except.bind]
  rw [Failure.read, getElem?_row hn hdest]

theorem compute_eq (hmax : t.numNodes ≤ params.maxNodes)
    (hd : DistanceTable.compute t = (.ok d : Except (Failure TopologyError) _)) :
    compute t params =
      ⟨if 0 < unreachablePairs t d then [.disconnected (unreachablePairs t d)] else [],
        .ok (ofDistances t d)⟩ := by
  rw [compute, if_neg (UInt64.not_lt.mpr hmax), hd]
  simp only
  split <;> rfl

theorem compute_total (h : t.Consistent) (hn : t.size < 2 ^ 32)
    (hmax : t.numNodes ≤ params.maxNodes) :
    ∃ d, d.Exact t ∧ (compute t params).value = .ok (ofDistances t d) := by
  obtain ⟨d, hcompute, hd⟩ := DistanceTable.compute_total (ε := TopologyError) h hn
  exact ⟨d, hd, congrArg Logged.value (compute_eq hmax hcompute)⟩

/-- The table lists `y` as a candidate at `x` for `dest`. -/
def Offers (c : CandidateTable) (dest x y : NodeId) : Prop :=
  ∃ candidates, c.get x dest = (.ok candidates : Except (Failure Unit) _) ∧ y ∈ candidates

theorem offers_iff (h : t.Consistent) (hn : t.size < 2 ^ 32) (hd : d.Exact t)
    (hx : x.toNat < t.size) (hdest : dest.toNat < t.size) :
    (ofDistances t d).Offers dest x y ↔ Closer t.graph dest x y := by
  rw [← mem_candidatesOf h hd hx hdest, Offers, get_ofDistances hn hx hdest]
  simp

theorem isChain_offers_iff (h : t.Consistent) (hn : t.size < 2 ^ 32) (hd : d.Exact t)
    (hdest : dest.toNat < t.size) {p : List NodeId} (hx : x.toNat < t.size) :
    (x :: p).IsChain ((ofDistances t d).Offers dest) ↔ (x :: p).IsChain (Closer t.graph dest) := by
  induction p generalizing x with
  | nil => simp
  | cons y p ih =>
      rw [List.isChain_cons_cons, List.isChain_cons_cons, offers_iff h hn hd hx hdest]
      exact and_congr_right fun hcloser => ih (h.adj_lt_size hcloser.1)

/-- **The candidate tables describe exactly the shortest paths.**  A list of nodes is a shortest
path if and only if it follows the candidates and arrives.  Whoever follows the candidates from a
node that is joined to the destination makes at most as many hops as the distance, meets no node
twice, and can always go on until the destination is reached. -/
theorem shortest_paths_of_build {numNodes : UInt64} {edges : List Edge} {endpoints : List NodeId}
    (h : Topology.build numNodes edges endpoints = .ok t) (hn : numNodes.toNat < 2 ^ 32)
    (hmax : numNodes ≤ params.maxNodes) :
    ∃ c, (compute t params).value = .ok c ∧
      (∀ s dest : NodeId, s.toNat < numNodes.toNat → dest.toNat < numNodes.toNat →
        ∀ p : List NodeId, p.head? = some s →
          ((∃ w : (linkGraph edges).Walk s dest,
              w.support = p ∧ w.length = (linkGraph edges).dist s dest) ↔
            p.getLast? = some dest ∧ p.IsChain (c.Offers dest))) ∧
      ∀ s dest : NodeId, s.toNat < numNodes.toNat → dest.toNat < numNodes.toNat →
        (linkGraph edges).Reachable s dest →
        ∀ p : List NodeId, p.head? = some s → p.IsChain (c.Offers dest) →
          p.length ≤ (linkGraph edges).dist s dest + 1 ∧ p.Nodup ∧
            ∃ q, (p ++ q).IsChain (c.Offers dest) ∧ (p ++ q).getLast? = some dest := by
  have hc := Topology.consistent_of_build h
  have hsize := Topology.size_of_build h
  have hlt : t.size < 2 ^ 32 := hsize.trans_lt hn
  have hnum : t.numNodes = numNodes := UInt64.toNat_inj.mp hsize
  obtain ⟨d, hd, hcompute⟩ := compute_total hc hlt (hnum ▸ hmax)
  rw [← Topology.graph_of_build h, ← hsize]
  refine ⟨_, hcompute, ?_, ?_⟩
  · intro s dest hs hdest p hp
    obtain ⟨p, rfl⟩ := List.head?_eq_some_iff.mp hp
    rw [isChain_offers_iff hc hlt hd hdest hs]
    exact exists_walk_iff_isChain hp
  · intro s dest hs hdest hr p hp hchain
    obtain ⟨p, rfl⟩ := List.head?_eq_some_iff.mp hp
    rw [isChain_offers_iff hc hlt hd hdest hs] at hchain
    obtain ⟨q, hq, hlast⟩ := exists_isChain_append hr hchain
    refine ⟨Nat.succ_le_succ (length_le_of_isChain hchain), nodup_of_isChain hchain, q, ?_, hlast⟩
    exact (isChain_offers_iff hc hlt hd hdest hs).mpr hq

/-- A square, where two shortest paths join opposite corners. -/
theorem shortest_paths_of_square :
    ∃ t, Topology.build 4 [(0, 1), (1, 2), (2, 3), (3, 0)] = .ok t ∧ (4 : UInt64).toNat < 2 ^ 32 ∧
      (4 : UInt64) ≤ ({} : Params).maxNodes ∧
      ∃ c, (compute t {}).value = .ok c ∧
        ∀ p : List NodeId, p.head? = some 0 →
          ((∃ w : (linkGraph [(0, 1), (1, 2), (2, 3), (3, 0)]).Walk 0 2, w.support = p ∧
              w.length = (linkGraph [(0, 1), (1, 2), (2, 3), (3, 0)]).dist 0 2) ↔
            p.getLast? = some 2 ∧ p.IsChain (c.Offers 2)) := by
  have ht : Topology.build 4 [(0, 1), (1, 2), (2, 3), (3, 0)] [] = .ok _ := rfl
  have hmax : (4 : UInt64) ≤ ({} : Params).maxNodes := by decide
  obtain ⟨c, hcompute, hpaths, -⟩ := shortest_paths_of_build ht (by decide) hmax
  exact ⟨_, ht, by decide, hmax, c, hcompute, hpaths 0 2 (by decide) (by decide)⟩

end CandidateTable

end Multipath
