import Multipath.Proofs.Topology.Canonical
import Multipath.Proofs.Topology.OnePass

/-!
# The views of a topology

A topology shows its graph in three ways: as a sorted list of edges, as a set of neighbours for each
node, and by answering whether two nodes are joined.  In a built topology the three agree, and they
depend on nothing but which links and endpoints were given (`views_of_build`).
-/

namespace Multipath

theorem Edge.normalize_eq_min_max (e : Edge) : e.normalize = (min e.1 e.2, max e.1 e.2) := by
  show _ = ((if e.1 ≤ e.2 then e.1 else e.2), (if e.1 ≤ e.2 then e.2 else e.1))
  unfold normalize
  split <;> rfl

namespace Topology

variable {n : UInt64} {edges : List Edge} {endpoints : List NodeId} {t : Topology} {a b v : NodeId}

namespace Consistent

/-- The edge between two neighbours stands in the list with its lower end first. -/
theorem mem_min_max_iff (h : t.Consistent) : (min a b, max a b) ∈ t.edges ↔ t.graph.Adj a b := by
  rw [← Edge.normalize_eq_min_max (a, b), h.adj_iff]
  constructor
  · intro hmem
    rcases Edge.normalize_eq_or (a, b) with heq | heq <;> rw [heq] at hmem
    · exact Or.inl hmem
    · exact Or.inr hmem
  · rintro (hmem | hmem)
    · have hle : a ≤ b := UInt32.le_of_lt (h.ordered _ hmem)
      rwa [Edge.normalize, if_pos hle]
    · have hle : ¬ a ≤ b := UInt32.not_le.mpr (h.ordered _ hmem)
      rwa [Edge.normalize, if_neg hle]

theorem pairwise_lex (h : t.Consistent) : t.edges.Pairwise (Prod.Lex (· < ·) (· < ·)) :=
  h.sorted.imp fun hlt => Prod.lex_def.mpr (Edge.compare_lt_iff.mp hlt)

end Consistent

theorem mem_edges_iff_of_build (h : build n edges endpoints = .ok t) (e : Edge) :
    e ∈ t.edges ↔ ∃ f ∈ edges, e = (min f.1 f.2, max f.1 f.2) := by
  simp only [mem_edges_of_build h, List.mem_map, Edge.normalize_eq_min_max, eq_comm]

theorem contains_endpoints_of_build (h : build n edges endpoints = .ok t) :
    t.endpoints.contains v = true ↔ v ∈ endpoints := by
  have hrange := (exists_build_iff.mp ⟨t, h⟩).2
  obtain ⟨links, ends, -, hends, rfl⟩ := build_eq_ok h
  exact (mem_of_foldlM_addEndpoint hends v).trans (and_iff_left_of_imp (hrange v))

theorem isEmpty_endpoints_of_build (h : build n edges endpoints = .ok t) :
    t.endpoints.isEmpty = true ↔ endpoints = [] := by
  rw [Std.ExtTreeSet.isEmpty_iff, Std.ExtTreeSet.eq_empty_iff_forall_not_mem,
    List.eq_nil_iff_forall_not_mem]
  simp only [← Std.ExtTreeSet.contains_iff_mem, contains_endpoints_of_build h]

/-- Without endpoints all nodes are endpoints; otherwise those that were given. -/
theorem isEndpoint_iff_of_build (h : build n edges endpoints = .ok t) :
    t.isEndpoint v = true ↔ v.toNat < n.toNat ∧ (endpoints = [] ∨ v ∈ endpoints) := by
  unfold isEndpoint
  split
  case isTrue hempty =>
    rw [decide_eq_true_iff, size_of_build h, (isEmpty_endpoints_of_build h).mp hempty]
    simp
  case isFalse hempty =>
    have hsome : endpoints ≠ [] := fun hnil => hempty ((isEmpty_endpoints_of_build h).mpr hnil)
    rw [contains_endpoints_of_build h, or_iff_right hsome]
    exact (and_iff_right_of_imp ((exists_build_iff.mp ⟨t, h⟩).2 v)).symm

/-- **Three views of one graph.**  The list of edges is sorted, holds each link once with its lower
end first, and nothing else.  The neighbours of a node are those with whom it shares an edge in the
list, and the same goes for the question whether two nodes are joined, where any numbers may be asked
about.  Flows may begin and end at the given endpoints, or everywhere if none were given.  Filling the
list and the neighbour sets side by side gives the same topology, and so do the same links and
endpoints in any other order and direction. -/
theorem views_of_build (h : build n edges endpoints = .ok t) :
    t.numNodes = n ∧
    t.edges.Pairwise (Prod.Lex (· < ·) (· < ·)) ∧
    t.edges.length = edges.length ∧
    (∀ e ∈ t.edges, e.1 < e.2 ∧ e.2.toNat < n.toNat) ∧
    (∀ e, e ∈ t.edges ↔ ∃ f ∈ edges, e = (min f.1 f.2, max f.1 f.2)) ∧
    (∃ around : NodeId → NodeSet,
      (∀ v, v.toNat < n.toNat → t.neighbors v = (.ok (around v) : Except (Failure Unit) NodeSet)) ∧
      ∀ v, v.toNat < n.toNat →
        (∀ u, (around v).contains u = true ↔ (min u v, max u v) ∈ t.edges) ∧
        (∀ u, u.toNat < n.toNat → ((around v).contains u = true ↔ (around u).contains v = true)) ∧
        (around v).contains v = false ∧
        ∀ u, (around v).contains u = true → u.toNat < n.toNat) ∧
    (∀ a b, t.hasEdge a b = true ↔ (min a b, max a b) ∈ t.edges) ∧
    (∀ v, t.isEndpoint v = true ↔ v.toNat < n.toNat ∧ (endpoints = [] ∨ v ∈ endpoints)) ∧
    buildInOnePass n edges endpoints = .ok t ∧
    ∀ edges' endpoints' t', build n edges' endpoints' = .ok t' → SameLinks edges edges' →
      (∀ v, v ∈ endpoints ↔ v ∈ endpoints') → t = t' := by
  have hc := consistent_of_build h
  have hsize := size_of_build h
  refine ⟨numNodes_of_build h, hc.pairwise_lex, length_edges_of_build h,
    fun e he => ⟨hc.ordered e he, hsize ▸ hc.inRange e he⟩, mem_edges_iff_of_build h, ?_, ?_,
    fun v => isEndpoint_iff_of_build h, ?_, ?_⟩
  · have hread : ∀ v : NodeId, v.toNat < n.toNat → ∃ around,
        t.neighbors v = (.ok around : Except (Failure Unit) NodeSet) ∧
          ∀ u, around.contains u = true ↔ t.graph.Adj v u :=
      fun v hv => hc.exists_neighbors (hsize ▸ hv)
    choose! around hneighbors hadj using hread
    refine ⟨around, hneighbors, fun v hv => ⟨?_, ?_, ?_, ?_⟩⟩
    · intro u
      rw [hadj v hv, hc.mem_min_max_iff, t.graph.adj_comm]
    · intro u hu
      rw [hadj v hv, hadj u hu, t.graph.adj_comm]
    · rw [Bool.eq_false_iff, Ne, hadj v hv]
      exact t.graph.irrefl
    · intro u hu
      exact hsize ▸ hc.adj_lt_size ((hadj v hv u).mp hu)
  · intro a b
    rw [hc.hasEdge_iff, hc.mem_min_max_iff]
  · rw [buildInOnePass_eq, h, Failure.lift_ok]
  · intro edges' endpoints' t' h' hlinks hends
    exact eq_of_build h h' (fun e => hlinks.perm_normalize.mem_iff) hends

/-- Two ways to write down three links and two endpoints. -/
theorem views_of_three_links :
    ∃ t t', build 4 [(3, 2), (1, 0), (0, 3)] [2, 1, 2] = .ok t ∧
      build 4 [(0, 1), (3, 0), (2, 3)] [1, 2] = .ok t' ∧
      SameLinks [(3, 2), (1, 0), (0, 3)] [(0, 1), (3, 0), (2, 3)] ∧
      (∀ v, v ∈ [(2 : NodeId), 1, 2] ↔ v ∈ [(1 : NodeId), 2]) ∧
      t = t' ∧ t.edges.length = 3 ∧ (0, 3) ∈ t.edges ∧ t.hasEdge 3 0 = true ∧
      t.hasEdge 7 0 = false ∧ t.isEndpoint 1 = true ∧ t.isEndpoint 0 = false := by
  obtain ⟨t, t', h, h'⟩ : ∃ t t', build 4 [(3, 2), (1, 0), (0, 3)] [2, 1, 2] = .ok t ∧
      build 4 [(0, 1), (3, 0), (2, 3)] [1, 2] = .ok t' := ⟨_, _, rfl, rfl⟩
  have hlinks : SameLinks [(3, 2), (1, 0), (0, 3)] [(0, 1), (3, 0), (2, 3)] := by
    refine ⟨[(2, 3), (0, 1), (3, 0)], ?_, by decide⟩
    exact .cons (Or.inr rfl) (.cons (Or.inr rfl) (.cons (Or.inr rfl) .nil))
  have hends : ∀ v, v ∈ [(2 : NodeId), 1, 2] ↔ v ∈ [(1 : NodeId), 2] := by
    intro v
    simp only [List.mem_cons, List.not_mem_nil]
    tauto
  obtain ⟨-, -, hlength, hordered, hmem, -, hedge, hend, -, hunique⟩ := views_of_build h
  have h03 : (0, 3) ∈ t.edges := (hmem _).mpr ⟨(0, 3), by decide, by decide⟩
  refine ⟨t, t', h, h', hlinks, hends, hunique _ _ _ h' hlinks hends, hlength, h03,
    (hedge 3 0).mpr h03, ?_, (hend 1).mpr (by decide), ?_⟩
  · rw [Bool.eq_false_iff, Ne, hedge]
    exact fun hout => absurd (hordered _ hout).2 (by decide)
  · rw [Bool.eq_false_iff, Ne, hend]
    decide

end Topology

end Multipath
