import Mathlib.Combinatorics.SimpleGraph.Metric
import Multipath.Proofs.Folds
import Multipath.Topology.Build

/-!
# The graph of a topology

`linkGraph` reads a list of links as an undirected graph.  A topology that was built without a fault
describes the graph of the links that it was built from, and it does so in both of its views: in its
sorted list of edges and in its neighbour sets (`Topology.Consistent`).

* `consistent_of_build`: what is built is consistent;
* `graph_of_build`: its graph is the graph of the given links, whatever their order and direction;
* `length_edges_of_build`: no link is lost, since repeated links are refused.
-/

namespace Multipath

/-- The graph whose edges are the given links.  A link of a node to itself does not count. -/
def linkGraph (edges : List Edge) : SimpleGraph NodeId :=
  SimpleGraph.fromRel fun a b => (a, b) ∈ edges

theorem linkGraph_adj {edges : List Edge} {a b : NodeId} :
    (linkGraph edges).Adj a b ↔ a ≠ b ∧ ((a, b) ∈ edges ∨ (b, a) ∈ edges) :=
  SimpleGraph.fromRel_adj _ a b

namespace Edge

theorem normalize_eq_or (e : Edge) : e.normalize = e ∨ e.normalize = (e.2, e.1) := by
  unfold normalize
  split
  · exact Or.inl rfl
  · exact Or.inr rfl

theorem normalize_lt {e : Edge} (h : e.1 ≠ e.2) : e.normalize.1 < e.normalize.2 := by
  unfold normalize
  split
  case isTrue hle => exact UInt32.lt_of_le_of_ne hle h
  case isFalse hle => exact UInt32.not_le.mp hle

theorem compare_eq_iff {e f : Edge} : Edge.compare e f = .eq ↔ e = f :=
  Std.LawfulEqCmp.compare_eq_iff_eq

theorem compare_lt_iff {e f : Edge} :
    Edge.compare e f = .lt ↔ e.1 < f.1 ∨ e.1 = f.1 ∧ e.2 < f.2 := by
  rw [Edge.compare, Ordering.then_eq_lt]
  simp only [Std.LawfulEqCmp.compare_eq_iff_eq, Std.compare_eq_lt]

end Edge

/-- The direction of the links leaves no trace in their graph. -/
theorem linkGraph_map_normalize (edges : List Edge) :
    linkGraph (edges.map Edge.normalize) = linkGraph edges := by
  ext a b
  simp only [linkGraph_adj, List.mem_map]
  refine and_congr_right fun _ => ⟨?_, ?_⟩
  · rintro (⟨e, he, hab⟩ | ⟨e, he, hab⟩) <;>
      rcases e.normalize_eq_or with hn | hn <;> rw [hn] at hab
    · exact Or.inl (hab ▸ he)
    · obtain ⟨rfl, rfl⟩ := Prod.mk.inj hab
      exact Or.inr he
    · exact Or.inr (hab ▸ he)
    · obtain ⟨rfl, rfl⟩ := Prod.mk.inj hab
      exact Or.inl he
  · -- turned round or not, the link is in the list
    rintro (h | h)
    · rcases Edge.normalize_eq_or (a, b) with hn | hn
      · exact Or.inl ⟨(a, b), h, hn⟩
      · exact Or.inr ⟨(a, b), h, hn⟩
    · rcases Edge.normalize_eq_or (b, a) with hn | hn
      · exact Or.inr ⟨(b, a), h, hn⟩
      · exact Or.inl ⟨(b, a), h, hn⟩

/-- If every link leads upwards, no link is one of a node to itself. -/
theorem linkGraph_adj_of_lt {edges : List Edge} (h : ∀ e ∈ edges, e.1 < e.2) {a b : NodeId} :
    (linkGraph edges).Adj a b ↔ (a, b) ∈ edges ∨ (b, a) ∈ edges := by
  refine linkGraph_adj.trans (and_iff_right_of_imp ?_)
  rintro (he | he)
  · exact UInt32.ne_of_lt (h _ he)
  · exact (UInt32.ne_of_lt (h _ he)).symm

theorem linkGraph_congr {edges edges' : List Edge} (h : ∀ e, e ∈ edges ↔ e ∈ edges') :
    linkGraph edges = linkGraph edges' := by
  ext a b
  simp only [linkGraph_adj, h]

/-- Different nodes with numbers below `n` are not more than `n`. -/
theorem length_le_of_nodup {nodes : List NodeId} {n : ℕ} (h : nodes.Nodup)
    (hlt : ∀ v ∈ nodes, v.toNat < n) : nodes.length ≤ n := by
  have hnodup : (nodes.map UInt32.toNat).Nodup := h.map fun u v => UInt32.toNat_inj.mp
  have hsub : nodes.map UInt32.toNat ⊆ List.range n := by
    intro m hm
    obtain ⟨v, hv, rfl⟩ := List.mem_map.mp hm
    exact List.mem_range.mpr (hlt v hv)
  simpa using (hnodup.subperm hsub).length_le

namespace Topology

/-- The graph of a topology's links. -/
abbrev graph (t : Topology) : SimpleGraph NodeId :=
  linkGraph t.edges

/-- The two views of the topology agree, and its links and endpoints are where they belong. -/
structure Consistent (t : Topology) : Prop where
  ordered : ∀ e ∈ t.edges, e.1 < e.2
  inRange : ∀ e ∈ t.edges, e.2.toNat < t.size
  sorted : t.edges.Pairwise fun e f => Edge.compare e f = .lt
  size_adjacency : t.adjacency.size = t.size
  hasEdge_iff : ∀ a b, t.hasEdge a b = true ↔ t.graph.Adj a b
  endpoint_lt : ∀ v, t.endpoints.contains v = true → v.toNat < t.size

namespace Consistent

variable {t : Topology} {a b : NodeId} {e : Edge}

theorem nodup (h : t.Consistent) : t.edges.Nodup :=
  h.sorted.imp fun {e f} hlt heq => by
    rw [Edge.compare_eq_iff.mpr heq] at hlt
    exact absurd hlt (by decide)

theorem fst_ne_snd (h : t.Consistent) (he : e ∈ t.edges) : e.1 ≠ e.2 :=
  UInt32.ne_of_lt (h.ordered e he)

theorem fst_lt_size (h : t.Consistent) (he : e ∈ t.edges) : e.1.toNat < t.size :=
  (UInt32.lt_iff_toNat_lt.mp (h.ordered e he)).trans (h.inRange e he)

theorem adj_iff (h : t.Consistent) : t.graph.Adj a b ↔ (a, b) ∈ t.edges ∨ (b, a) ∈ t.edges :=
  linkGraph_adj_of_lt h.ordered

theorem adj_lt_size (h : t.Consistent) (hab : t.graph.Adj a b) : b.toNat < t.size := by
  rcases h.adj_iff.mp hab with he | he
  · exact h.inRange _ he
  · exact h.fst_lt_size he

theorem isEndpoint_lt (h : t.Consistent) (ha : t.isEndpoint a = true) : a.toNat < t.size := by
  unfold isEndpoint at ha
  split at ha
  · simpa using ha
  · exact h.endpoint_lt a ha

theorem exists_neighbors {ε : Type} (h : t.Consistent) (ha : a.toNat < t.size) :
    ∃ neighbors, t.neighbors a = (.ok neighbors : Except (Failure ε) NodeSet) ∧
      ∀ b, neighbors.contains b = true ↔ t.graph.Adj a b := by
  have hlt : a.toNat < t.adjacency.size := h.size_adjacency ▸ ha
  refine ⟨_, Failure.read_eq_ok hlt, ?_⟩
  intro b
  rw [← h.hasEdge_iff, hasEdge, Array.getElem?_eq_getElem hlt, Option.any_some]

end Consistent

/-! ### Nodes and neighbours -/

section Nodes

variable {t : Topology} {a b : NodeId}

theorem nodes_eq (hn : t.size < 2 ^ 32) : t.nodes = (List.range t.size).map UInt32.ofNat := by
  have hsize : t.numNodes.toUInt32.toNat = t.size := by
    rw [UInt64.toNat_toUInt32]
    exact Nat.mod_eq_of_lt hn
  rw [nodes, hsize]

theorem getElem?_nodes (hn : t.size < 2 ^ 32) (ha : a.toNat < t.size) :
    t.nodes[a.toNat]? = some a := by
  simp [nodes_eq hn, ha]

theorem mem_nodes (hn : t.size < 2 ^ 32) : a ∈ t.nodes ↔ a.toNat < t.size := by
  constructor
  · intro ha
    rw [nodes_eq hn, List.mem_map] at ha
    obtain ⟨i, hi, rfl⟩ := ha
    rw [List.mem_range] at hi
    rwa [UInt32.toNat_ofNat_of_lt' (hi.trans hn)]
  · exact fun ha => List.mem_of_getElem? (getElem?_nodes hn ha)

theorem nodup_nodes (hn : t.size < 2 ^ 32) : t.nodes.Nodup := by
  rw [nodes_eq hn]
  refine List.Nodup.map_on ?_ List.nodup_range
  intro i hi j hj hij
  rw [List.mem_range] at hi hj
  have htoNat := congrArg UInt32.toNat hij
  rwa [UInt32.toNat_ofNat_of_lt' (hi.trans hn), UInt32.toNat_ofNat_of_lt' (hj.trans hn)] at htoNat

theorem otherEnd_eq_some {u v : NodeId} (hne : u ≠ v) :
    (if u = a then some v else if v = a then some u else none) = some b ↔
      u = a ∧ v = b ∨ v = a ∧ u = b := by
  by_cases hu : u = a
  · have hv : v ≠ a := fun hv => hne (hu.trans hv.symm)
    simp [hu, hv]
  · by_cases hv : v = a
    · simp [hu, hv]
    · simp [hu, hv]

theorem mem_incident (h : t.Consistent) : b ∈ t.incident a ↔ t.graph.Adj a b := by
  rw [h.adj_iff, incident, List.mem_filterMap]
  constructor
  · rintro ⟨⟨u, v⟩, he, hb⟩
    rcases (otherEnd_eq_some (h.fst_ne_snd he)).mp hb with ⟨rfl, rfl⟩ | ⟨rfl, rfl⟩
    · exact Or.inl he
    · exact Or.inr he
  · rintro (he | he)
    · exact ⟨_, he, (otherEnd_eq_some (h.fst_ne_snd he)).mpr (Or.inl ⟨rfl, rfl⟩)⟩
    · exact ⟨_, he, (otherEnd_eq_some (h.fst_ne_snd he)).mpr (Or.inr ⟨rfl, rfl⟩)⟩

/-- The other ends of the links at a node come in increasing order. -/
theorem incident_sorted (h : t.Consistent) : (t.incident a).Pairwise (· < ·) := by
  rw [incident, List.pairwise_filterMap]
  refine h.sorted.imp_of_mem ?_
  rintro ⟨u, v⟩ ⟨u', v'⟩ he he' hlt b hb b' hb'
  have huv : u < v := h.ordered _ he
  have huv' : u' < v' := h.ordered _ he'
  -- the links that come from below stand before those that lead upwards
  rcases Edge.compare_lt_iff.mp hlt with hlt | ⟨rfl, hlt⟩ <;>
    rcases (otherEnd_eq_some (h.fst_ne_snd he)).mp hb with ⟨rfl, rfl⟩ | ⟨rfl, rfl⟩ <;>
    rcases (otherEnd_eq_some (h.fst_ne_snd he')).mp hb' with ⟨hx, rfl⟩ | ⟨hx, rfl⟩ <;>
    simp only [UInt32.lt_iff_toNat_lt, ← UInt32.toNat_inj] at * <;> omega

theorem length_incident_lt (h : t.Consistent) (ha : a.toNat < t.size) :
    (t.incident a).length < t.size := by
  have hnodup : (a :: t.incident a).Nodup := by
    refine List.nodup_cons.mpr ⟨?_, (incident_sorted h).imp UInt32.ne_of_lt⟩
    intro hmem
    exact ((mem_incident h).mp hmem).ne rfl
  have hlt : ∀ b ∈ a :: t.incident a, b.toNat < t.size := by
    intro b hb
    rcases List.mem_cons.mp hb with rfl | hb
    · exact ha
    · exact h.adj_lt_size ((mem_incident h).mp hb)
  exact length_le_of_nodup hnodup hlt

theorem lt_size_of_neighbors {ε : Type} {neighbors : NodeSet} (h : t.Consistent)
    (ha : t.neighbors a = (.ok neighbors : Except (Failure ε) NodeSet)) : a.toNat < t.size := by
  by_contra hge
  have hout : t.adjacency.size ≤ a.toNat := h.size_adjacency ▸ Nat.not_lt.mp hge
  rw [Topology.neighbors, Failure.read_eq_error hout] at ha
  exact absurd ha (by simp)

/-- A node has as many neighbours as links. -/
theorem size_neighbors {ε : Type} {neighbors : NodeSet} (h : t.Consistent)
    (ha : t.neighbors a = (.ok neighbors : Except (Failure ε) NodeSet)) :
    neighbors.size = (t.incident a).length := by
  obtain ⟨neighbors', ha', hadj⟩ := h.exists_neighbors (ε := ε) (lt_size_of_neighbors h ha)
  obtain rfl : neighbors = neighbors' := Except.ok.inj (ha.symm.trans ha')
  have hnodup : neighbors.toList.Nodup := neighbors.distinct_toList.imp fun hne heq =>
    hne (Std.LawfulEqCmp.compare_eq_iff_eq.mpr heq)
  have hperm : neighbors.toList.Perm (t.incident a) := by
    rw [List.perm_ext_iff_of_nodup hnodup ((incident_sorted h).imp UInt32.ne_of_lt)]
    intro b
    rw [mem_incident h, ← hadj, Std.ExtTreeSet.contains_iff_mem, Std.ExtTreeSet.mem_toList]
  rw [← Std.ExtTreeSet.length_toList, hperm.length_eq]

end Nodes

/-! ### What the edge loop accepts -/

section Build

variable {n : UInt64} {edges : List Edge} {endpoints : List NodeId} {t : Topology}

theorem addEdge_eq_ok {seen seen' : EdgeSet} {e : Edge} :
    addEdge n seen e = .ok seen' ↔
      e.1 ≠ e.2 ∧ e.1.toNat < n.toNat ∧ e.2.toNat < n.toNat ∧ seen.contains e.normalize = false ∧
        seen' = seen.insert e.normalize := by
  unfold addEdge
  split_ifs with h1 h2 h3 h4
  · exact iff_of_false (by simp) fun h => h.1 h1
  · exact iff_of_false (by simp) fun h => absurd h.2.1 (by omega)
  · exact iff_of_false (by simp) fun h => absurd h.2.2.1 (by omega)
  · exact iff_of_false (by simp) fun h => absurd h.2.2.2.1 (by simp [h4])
  · rw [Except.ok.injEq, eq_comm]
    refine ⟨fun h => ⟨h1, by omega, by omega, Bool.eq_false_iff.mpr h4, h⟩, fun h => h.2.2.2.2⟩

/-- The state of the edge loop behind a part of the links. -/
structure Collected (n : UInt64) (done : List Edge) (seen : EdgeSet) : Prop where
  mem_iff : ∀ e, e ∈ seen ↔ e ∈ done.map Edge.normalize
  size_eq : seen.size = done.length
  ne : ∀ e ∈ done, e.1 ≠ e.2
  lt : ∀ e ∈ done, e.1.toNat < n.toNat ∧ e.2.toNat < n.toNat

theorem collected_of_foldlM {seen : EdgeSet} (h : edges.foldlM (addEdge n) ∅ = .ok seen) :
    Collected n edges seen := by
  refine foldlM_invariant (Collected n) h ⟨by simp, rfl, by simp, by simp⟩ ?_
  rintro done e seen seen' - hdone hstep
  obtain ⟨hne, h1, h2, hnew, rfl⟩ := addEdge_eq_ok.mp hstep
  refine ⟨?_, ?_, ?_, ?_⟩
  · -- a link is collected in its upward direction
    intro f
    rw [Std.ExtTreeSet.mem_insert, Edge.compare_eq_iff, hdone.mem_iff, List.map_append,
      List.mem_append, or_comm]
    simp only [List.map_cons, List.map_nil, List.mem_singleton, eq_comm]
  · -- it was not there before, so the set grows
    simp [Std.ExtTreeSet.size_insert, hnew, hdone.size_eq]
  · intro f hf
    rcases List.mem_append.mp hf with hf | hf
    · exact hdone.ne f hf
    · exact List.mem_singleton.mp hf ▸ hne
  · intro f hf
    rcases List.mem_append.mp hf with hf | hf
    · exact hdone.lt f hf
    · exact List.mem_singleton.mp hf ▸ ⟨h1, h2⟩

/-! ### The neighbour sets -/

/-- Whether `b` stands in the neighbour set of `a`. -/
def Listed (adjacency : Array NodeSet) (a b : NodeId) : Prop :=
  adjacency[a.toNat]?.any (·.contains b) = true

theorem listed_join {adjacency : Array NodeSet} {e : Edge} {a b : NodeId}
    (ha : a.toNat < adjacency.size) :
    Listed (join adjacency e) a b ↔ Listed adjacency a b ∨ e = (a, b) ∨ e = (b, a) := by
  obtain ⟨u, v⟩ := e
  have hcmp : ∀ x, compare x b = .eq ↔ x = b := fun x => Std.LawfulEqCmp.compare_eq_iff_eq
  simp only [Listed, join, Array.getElem?_modify, UInt32.toNat_inj, Array.getElem?_eq_getElem ha,
    Prod.mk.injEq]
  split_ifs with hv hu hu <;>
    simp only [Option.map_some, Option.any_some, Std.ExtTreeSet.contains_insert, Bool.or_eq_true,
      beq_iff_eq, hcmp] <;> tauto

theorem size_foldl_join (links : List Edge) (adjacency : Array NodeSet) :
    (links.foldl join adjacency).size = adjacency.size := by
  induction links generalizing adjacency with
  | nil => rfl
  | cons e links ih => rw [List.foldl_cons, ih]; simp [join]

theorem listed_foldl_join (links : List Edge) {adjacency : Array NodeSet} {a b : NodeId}
    (ha : a.toNat < adjacency.size) :
    Listed (links.foldl join adjacency) a b ↔
      Listed adjacency a b ∨ (a, b) ∈ links ∨ (b, a) ∈ links := by
  induction links generalizing adjacency with
  | nil => simp
  | cons e links ih =>
      rw [List.foldl_cons, ih (by simpa [join] using ha), listed_join ha]
      simp only [List.mem_cons, eq_comm (a := e)]
      tauto

theorem mem_of_foldlM_addEndpoint {seen : NodeSet}
    (h : endpoints.foldlM (addEndpoint n) ∅ = .ok seen) :
    ∀ v, seen.contains v = true ↔ v ∈ endpoints ∧ v.toNat < n.toNat := by
  refine foldlM_invariant (fun done seen => ∀ v, seen.contains v = true ↔
    v ∈ done ∧ v.toNat < n.toNat) h (by simp) ?_
  rintro done x seen seen' - hdone hstep v
  unfold addEndpoint at hstep
  split_ifs at hstep with hx
  obtain rfl : seen.insert x = seen' := by simpa using hstep
  have hxv : compare x v = .eq ↔ v = x := by rw [Std.LawfulEqCmp.compare_eq_iff_eq, eq_comm]
  have hlt : v = x → v.toNat < n.toNat := by rintro rfl; omega
  simp only [Std.ExtTreeSet.contains_insert, Bool.or_eq_true, beq_iff_eq, hxv, hdone,
    List.mem_append, List.mem_singleton]
  tauto

/-! ### What building establishes -/

theorem build_eq_ok (h : build n edges endpoints = .ok t) :
    ∃ links ends, edges.foldlM (addEdge n) ∅ = .ok links ∧
      endpoints.foldlM (addEndpoint n) ∅ = .ok ends ∧
      t = ⟨n, links.toList, links.toList.foldl join (Array.replicate n.toNat ∅), ends⟩ := by
  obtain ⟨links, hlinks, h⟩ := bind_eq_ok.mp h
  obtain ⟨ends, hends, h⟩ := bind_eq_ok.mp h
  exact ⟨links, ends, hlinks, hends, (Except.ok.inj h).symm⟩

theorem size_of_build (h : build n edges endpoints = .ok t) : t.size = n.toNat := by
  obtain ⟨links, ends, -, -, rfl⟩ := build_eq_ok h
  rfl

theorem numNodes_of_build (h : build n edges endpoints = .ok t) : t.numNodes = n :=
  UInt64.toNat_inj.mp (size_of_build h)

theorem mem_edges_of_build (h : build n edges endpoints = .ok t) (e : Edge) :
    e ∈ t.edges ↔ e ∈ edges.map Edge.normalize := by
  obtain ⟨links, ends, hlinks, -, rfl⟩ := build_eq_ok h
  exact Std.ExtTreeSet.mem_toList.trans ((collected_of_foldlM hlinks).mem_iff e)

theorem graph_of_build (h : build n edges endpoints = .ok t) : t.graph = linkGraph edges :=
  (linkGraph_congr (mem_edges_of_build h)).trans (linkGraph_map_normalize edges)

theorem length_edges_of_build (h : build n edges endpoints = .ok t) :
    t.edges.length = edges.length := by
  obtain ⟨links, ends, hlinks, -, rfl⟩ := build_eq_ok h
  exact Std.ExtTreeSet.length_toList.trans (collected_of_foldlM hlinks).size_eq

theorem consistent_of_build (h : build n edges endpoints = .ok t) : t.Consistent := by
  have hmem := mem_edges_of_build h
  obtain ⟨links, ends, hlinks, hends, rfl⟩ := build_eq_ok h
  have hc := collected_of_foldlM hlinks
  have hordered : ∀ e ∈ links.toList, e.1 < e.2 := by
    intro e he
    obtain ⟨f, hf, rfl⟩ := List.mem_map.mp ((hmem e).mp he)
    exact Edge.normalize_lt (hc.ne f hf)
  have hrange : ∀ e ∈ links.toList, e.1.toNat < n.toNat ∧ e.2.toNat < n.toNat := by
    intro e he
    obtain ⟨f, hf, rfl⟩ := List.mem_map.mp ((hmem e).mp he)
    rcases f.normalize_eq_or with hn | hn <;> rw [hn]
    · exact hc.lt f hf
    · exact (hc.lt f hf).symm
  refine ⟨hordered, fun e he => (hrange e he).2, Std.ExtTreeSet.ordered_toList, ?_, ?_, ?_⟩
  · simp [size_foldl_join, size]
  · intro a b
    rw [graph, linkGraph_adj_of_lt hordered]
    by_cases ha : a.toNat < n.toNat
    · refine (listed_foldl_join links.toList (by simpa using ha)).trans (or_iff_right ?_)
      simp [Listed, ha]
    · -- nobody outside the network has neighbours, and no link leads there
      have hout : ∀ e ∈ links.toList, e.1 ≠ a ∧ e.2 ≠ a := by
        intro e he
        obtain ⟨h1, h2⟩ := hrange e he
        exact ⟨fun h => ha (h ▸ h1), fun h => ha (h ▸ h2)⟩
      refine iff_of_false ?_ ?_
      · simp [hasEdge, size_foldl_join, ha]
      · rintro (he | he)
        · exact (hout _ he).1 rfl
        · exact (hout _ he).2 rfl
  · intro v hv
    exact ((mem_of_foldlM_addEndpoint hends v).mp hv).2

end Build

end Topology

end Multipath
