import Multipath.Proofs.Distance.Rounds

/-!
# The distance table of a topology

The computation succeeds on every consistent topology, and its table holds the distances of the
graph (`compute_total`).  The in-place rounds with their skipped rows and their cut-off sums give,
one by one, the tables of the textbook (`distances_of_build`).
-/

namespace Multipath.DistanceTable

variable {ε : Type} {n : ℕ} {i j : Fin n} {t : Topology} {a b : NodeId}

/-! ### The table before the first round -/

theorem get_isolated : (isolated n).get (position i j) =
    if i = j then 0 else Distance.unreachable := by
  have hdiv : (n * i.val + j.val) / n = i.val := by
    rw [Nat.mul_add_div i.pos, Nat.div_eq_of_lt j.isLt, Nat.add_zero]
  have hmod : (n * i.val + j.val) % n = j.val := by
    rw [Nat.mul_add_mod, Nat.mod_eq_of_lt j.isLt]
  show (isolated n)[(position i j).val] = _
  simp [isolated, hdiv, hmod, Fin.ext_iff]

theorem addEdge_eq_ok (cells : Vector Distance (n * n)) {e : Edge} (hi : e.1.toNat = i.val)
    (hj : e.2.toNat = j.val) :
    addEdge cells e = (.ok ((cells.set (position i j).val 1 (position i j).isLt).set
      (position j i).val 1 (position j i).isLt) : Except (Failure ε) _) := by
  have hfst : ∀ cells : Vector Distance (n * n),
      markAdjacent cells (n * e.1.toNat + e.2.toNat) =
        (.ok (cells.set (position i j).val 1 (position i j).isLt) : Except (Failure ε) _) := by
    intro cells
    rw [hi, hj]
    exact dif_pos (position i j).isLt
  have hsnd : ∀ cells : Vector Distance (n * n),
      markAdjacent cells (n * e.2.toNat + e.1.toNat) =
        (.ok (cells.set (position j i).val 1 (position j i).isLt) : Except (Failure ε) _) := by
    intro cells
    rw [hi, hj]
    exact dif_pos (position j i).isLt
  rw [addEdge, hfst]
  exact hsnd _

/-- The table knows the links `done`. -/
def Marked (done : List Edge) (cells : Vector Distance (n * n)) : Prop :=
  ∀ i j, cells.get (position i j) =
    if i = j then 0
    else if (node i, node j) ∈ done ∨ (node j, node i) ∈ done then 1
    else Distance.unreachable

theorem marked_addEdge (hn : n < 2 ^ 32) {done : List Edge} {cells : Vector Distance (n * n)}
    {e : Edge} (h : Marked done cells) (hne : e.1 ≠ e.2) (h1 : e.1.toNat < n)
    (h2 : e.2.toNat < n) :
    ∃ cells', addEdge cells e = (.ok cells' : Except (Failure ε) _) ∧
      Marked (done ++ [e]) cells' := by
  obtain ⟨i, hi⟩ : ∃ i : Fin n, e.1.toNat = i.val := ⟨⟨e.1.toNat, h1⟩, rfl⟩
  obtain ⟨j, hj⟩ : ∃ j : Fin n, e.2.toNat = j.val := ⟨⟨e.2.toNat, h2⟩, rfl⟩
  have hei : e.1 = node i := UInt32.toNat_inj.mp (hi.trans (toNat_node hn i).symm)
  have hej : e.2 = node j := UInt32.toNat_inj.mp (hj.trans (toNat_node hn j).symm)
  have hij : i ≠ j := fun h => hne (by rw [hei, hej, h])
  refine ⟨_, addEdge_eq_ok cells hi hj, ?_⟩
  intro i' j'
  have hmem : ∀ u v : Fin n, (node u, node v) ∈ done ++ [e] ↔
      (node u, node v) ∈ done ∨ u = i ∧ v = j := by
    intro u v
    rw [List.mem_append, List.mem_singleton, ← Prod.eta e, hei, hej, Prod.mk.injEq, node_inj hn,
      node_inj hn]
  rw [get_set_position, get_set_position, h i' j']
  simp only [hmem]
  grind

theorem exists_start (h : t.Consistent) (hn : t.size < 2 ^ 32) :
    ∃ start, t.edges.foldlM addEdge (isolated t.size) = (.ok start : Except (Failure ε) _) ∧
      Tabulates t.graph 0 start := by
  obtain ⟨start, hstart, hmarked⟩ := foldlM_total (ε := Failure ε) Marked (f := addEdge)
    (l := t.edges) (b := isolated t.size) (fun i j => by simp [get_isolated])
    fun done e cells hpre hdone => by
      have he : e ∈ t.edges := hpre.subset (by simp)
      exact marked_addEdge hn hdone (h.fst_ne_snd he) (h.fst_lt_size he) (h.inRange e he)
  refine ⟨start, hstart, ?_⟩
  intro i j
  rw [← idealStart_eq hn, cell, hmarked i j, idealStart]
  simp only [h.adj_iff]
  split_ifs <;> simp

/-! ### The table after the last round -/

/-- The table holds the distances of the topology's graph. -/
structure Exact (t : Topology) (d : DistanceTable) : Prop where
  size_eq : d.size = t.size
  hops_distance : ∀ a b : NodeId, a.toNat < t.size → b.toNat < t.size →
    (d.distance a b).hops = t.graph.edist a b

theorem get_eq_distance {d : DistanceTable} (ha : a.toNat < d.size) (hb : b.toNat < d.size) :
    d.get a b = (.ok (d.distance a b) : Except (Failure ε) Distance) := by
  have hlt : d.size * a.toNat + b.toNat < d.size * d.size :=
    (position ⟨a.toNat, ha⟩ ⟨b.toNat, hb⟩).isLt
  simp [distance, get, hlt]

theorem exact_of_tabulates (h : t.Consistent)
    {cells : Vector Distance (t.size * t.size)} (htab : Tabulates t.graph t.size cells) :
    Exact t ⟨t.size, cells⟩ := by
  refine ⟨rfl, ?_⟩
  intro a b ha hb
  have hcell := htab ⟨a.toNat, ha⟩ ⟨b.toNat, hb⟩
  have hnode : ∀ c : NodeId, ∀ hc : c.toNat < t.size, node (⟨c.toNat, hc⟩ : Fin t.size) = c :=
    fun c hc => UInt32.ofNat_toNat
  rw [hnode, hnode, hopsVia_eq_edist (fun _ _ => h.adj_lt_size) le_rfl] at hcell
  have hlt : t.size * a.toNat + b.toNat < t.size * t.size :=
    (position ⟨a.toNat, ha⟩ ⟨b.toNat, hb⟩).isLt
  rw [← hcell, cell]
  simp only [distance, get, hlt, dite_true]
  rfl

theorem Exact.distance_eq_unreachable_iff {d : DistanceTable} (hd : d.Exact t)
    (ha : a.toNat < t.size) (hb : b.toNat < t.size) :
    d.distance a b = Distance.unreachable ↔ ¬ t.graph.Reachable a b := by
  rw [← Distance.hops_eq_top_iff, hd.hops_distance a b ha hb, ← not_iff_not, not_not]
  exact SimpleGraph.edist_ne_top_iff_reachable

theorem compute_eq {start : Vector Distance (t.size * t.size)}
    (h : t.edges.foldlM addEdge (isolated t.size) = (.ok start : Except (Failure ε) _)) :
    compute t = (.ok ⟨t.size, (List.finRange t.size).foldl relaxRound start⟩ :
      Except (Failure ε) DistanceTable) := by
  rw [compute, h]
  rfl

theorem compute_total (h : t.Consistent) (hn : t.size < 2 ^ 32) :
    ∃ d, compute t = (.ok d : Except (Failure ε) DistanceTable) ∧ Exact t d := by
  obtain ⟨start, hstart, htab⟩ := exists_start (ε := ε) h hn
  refine ⟨_, compute_eq hstart, exact_of_tabulates h ?_⟩
  simpa using tabulates_rounds hn (fun _ _ => h.adj_lt_size) (List.prefix_refl _) htab

/-! ### From the links to the distances -/

/-- **Distances are lengths of shortest walks.**  The table of a built topology is computed without
a read or a write out of bounds.  It holds the number of edges of a shortest walk wherever there is
a walk, and `unreachable` exactly where there is none.  After any number of rounds it agrees with
the textbook, so neither the work in place nor the skipped rows nor the cut-off sums show. -/
theorem distances_of_build {numNodes : UInt64} {edges : List Edge} {endpoints : List NodeId}
    (h : Topology.build numNodes edges endpoints = .ok t) (hn : numNodes.toNat < 2 ^ 32) :
    ∃ start : Vector Distance (t.size * t.size),
      t.edges.foldlM addEdge (isolated t.size) = (.ok start : Except (Failure ε) _) ∧
      (∀ rounds, rounds <+: List.finRange t.size → ∀ i j,
        cell (rounds.foldl relaxRound start) i j =
          rounds.foldl idealRound (idealStart (linkGraph edges)) i j) ∧
      ∃ d, compute t = (.ok d : Except (Failure ε) DistanceTable) ∧
        d = ⟨t.size, (List.finRange t.size).foldl relaxRound start⟩ ∧
        ∀ a b : NodeId, a.toNat < numNodes.toNat → b.toNat < numNodes.toNat →
          ∃ x, d.get a b = (.ok x : Except (Failure ε) Distance) ∧
            (x = Distance.unreachable ↔ ¬ (linkGraph edges).Reachable a b) ∧
            ((linkGraph edges).Reachable a b → x.toNat = (linkGraph edges).dist a b) := by
  have hc := Topology.consistent_of_build h
  have hsize := Topology.size_of_build h
  have hgraph := Topology.graph_of_build h
  have hlt : t.size < 2 ^ 32 := hsize.trans_lt hn
  obtain ⟨start, hstart, htab⟩ := exists_start (ε := ε) hc hlt
  have hrounds : ∀ rounds, rounds <+: List.finRange t.size →
      Tabulates t.graph rounds.length (rounds.foldl relaxRound start) :=
    fun rounds hpre => tabulates_rounds hlt (fun _ _ => hc.adj_lt_size) hpre htab
  have hexact := exact_of_tabulates hc (by simpa using hrounds _ (List.prefix_refl _))
  refine ⟨start, hstart, ?_, _, compute_eq hstart, rfl, ?_⟩
  · intro rounds hpre i j
    rw [hrounds rounds hpre i j, foldl_idealRound hlt hpre, hgraph]
  · intro a b ha hb
    rw [← hsize] at ha hb
    have hops := hexact.hops_distance a b ha hb
    rw [hgraph] at hops
    refine ⟨_, get_eq_distance ha hb, ?_, ?_⟩
    · rw [← Distance.hops_eq_top_iff, hops, ← not_iff_not, not_not]
      exact SimpleGraph.edist_ne_top_iff_reachable
    · intro hr
      exact (Distance.hops_eq_coe_iff.mp (hops.trans hr.coe_dist_eq_edist.symm)).2

/-- Two links in a row and a node beside them. -/
theorem distances_of_two_links :
    ∃ t, Topology.build 4 [(0, 1), (2, 1)] = .ok t ∧ (4 : UInt64).toNat < 2 ^ 32 ∧
      ∃ d, compute t = (.ok d : Except (Failure Unit) DistanceTable) ∧
        ∀ a b : NodeId, a.toNat < 4 → b.toNat < 4 →
          ∃ x, d.get a b = (.ok x : Except (Failure Unit) Distance) ∧
            (x = Distance.unreachable ↔ ¬ (linkGraph [(0, 1), (2, 1)]).Reachable a b) ∧
            ((linkGraph [(0, 1), (2, 1)]).Reachable a b →
              x.toNat = (linkGraph [(0, 1), (2, 1)]).dist a b) := by
  have ht : Topology.build 4 [(0, 1), (2, 1)] [] = .ok _ := rfl
  obtain ⟨start, -, -, d, hd, -, hget⟩ := distances_of_build (ε := Unit) ht (by decide)
  exact ⟨_, ht, by decide, d, hd, hget⟩

end Multipath.DistanceTable
