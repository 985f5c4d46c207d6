import Multipath.Proofs.Candidates.ShortestPaths

/-!
# The candidates edge by edge

The candidate table can be filled by going over the edges instead of over the nodes.  An edge is held
against every destination, and whichever of its ends is one hop closer becomes a candidate of the
other, behind the candidates that this one has already.  Every row and every cell is looked up by the
number of its node.

* `rowsOf t f` is a table in the middle of this, where `f` says which candidates are there;
* `foldlM_pushEdge`: one edge adds to every cell what it contributes there;
* `edgeByEdge_eq`: in the end the table is that of `ofDistances`, with its candidates in the same
  order, and no look-up has failed.
-/

namespace Multipath.CandidateTable

variable {ε α : Type} {t : Topology} {d : DistanceTable} {x y dest : NodeId} {e : Edge}
variable {f g : NodeId → NodeId → List NodeId}

/-- Puts `candidate` behind the candidates of `node` for `destination`. -/
def push (rows : Array (Array (List NodeId))) (node destination candidate : NodeId) :
    Except (Failure ε) (Array (Array (List NodeId))) := do
  let row ← Failure.read rows node.toNat
  let _ ← (Failure.read row destination.toNat : Except (Failure ε) (List NodeId))
  return rows.modify node.toNat (·.modify destination.toNat (· ++ [candidate]))

/-- Makes `candidate` a candidate of `node` if it is one hop closer to `destination`. -/
def pushIfCloser (d : DistanceTable) (rows : Array (Array (List NodeId)))
    (node destination candidate : NodeId) : Except (Failure ε) (Array (Array (List NodeId))) := do
  let closer ← d.get candidate destination
  let farther ← d.get node destination
  if Distance.isOneCloser closer farther then push rows node destination candidate else pure rows

/-- Either end of an edge may become a candidate of the other. -/
def pushEdge (d : DistanceTable) (e : Edge) (rows : Array (Array (List NodeId)))
    (destination : NodeId) : Except (Failure ε) (Array (Array (List NodeId))) := do
  let rows ← pushIfCloser d rows e.1 destination e.2
  pushIfCloser d rows e.2 destination e.1

/-- The candidate table of a topology, filled edge by edge. -/
def edgeByEdge (t : Topology) (d : DistanceTable) : Except (Failure ε) CandidateTable := do
  let rows ← t.edges.foldlM (fun rows e => t.nodes.foldlM (pushEdge d e) rows)
    (Array.replicate t.size (Array.replicate t.size []))
  return ⟨rows⟩

/-! ### Tables given by their cells -/

/-- The array of what `g` says about each node. -/
def perNode (t : Topology) (g : NodeId → α) : Array α :=
  (t.nodes.map g).toArray

theorem perNode_congr {g g' : NodeId → α} (h : ∀ x ∈ t.nodes, g x = g' x) :
    perNode t g = perNode t g' :=
  congrArg List.toArray (List.map_congr_left h)

theorem perNode_const (hn : t.size < 2 ^ 32) (a : α) :
    perNode t (fun _ => a) = Array.replicate t.size a := by
  simp [perNode, Topology.nodes_eq hn, Function.comp_def]

theorem read_perNode (hn : t.size < 2 ^ 32) (hx : x.toNat < t.size) (g : NodeId → α) :
    Failure.read (perNode t g) x.toNat = (.ok (g x) : Except (Failure ε) α) := by
  simp [Failure.read, perNode, Topology.getElem?_nodes hn hx]

/-- Changing the entry at the number of a node changes what is said about that node. -/
theorem modify_perNode (hn : t.size < 2 ^ 32) (g : NodeId → α) (u : α → α) :
    (perNode t g).modify x.toNat u = perNode t fun z => if z = x then u (g z) else g z := by
  refine Array.ext_getElem? fun i => ?_
  rw [Array.getElem?_modify]
  by_cases hi : i < t.size
  · have hnode : x.toNat = i ↔ UInt32.ofNat i = x := by
      rw [← UInt32.toNat_inj, UInt32.toNat_ofNat_of_lt' (hi.trans hn), eq_comm]
    simp only [perNode, Topology.nodes_eq hn, hnode]
    split <;> simp_all
  · simp [perNode, Topology.nodes_eq hn, hi]

/-- The table in which the candidates of `x` for `dest` are `f x dest`. -/
def rowsOf (t : Topology) (f : NodeId → NodeId → List NodeId) : Array (Array (List NodeId)) :=
  perNode t fun x => perNode t (f x)

theorem ofDistances_eq (t : Topology) (d : DistanceTable) :
    ofDistances t d = ⟨rowsOf t (candidatesOf t d)⟩ := rfl

theorem rowsOf_congr (h : ∀ x, ∀ dest ∈ t.nodes, f x dest = g x dest) :
    rowsOf t f = rowsOf t g :=
  perNode_congr fun x _ => perNode_congr (h x)

theorem rowsOf_nil (hn : t.size < 2 ^ 32) :
    rowsOf t (fun _ _ => []) = Array.replicate t.size (Array.replicate t.size []) := by
  rw [rowsOf, perNode_const hn, perNode_const hn]

/-- The candidates of `f`, and `more` of them at `x` for `dest`. -/
def pushed (f : NodeId → NodeId → List NodeId) (x dest : NodeId) (more : List NodeId)
    (x' dest' : NodeId) : List NodeId :=
  if x' = x ∧ dest' = dest then f x' dest' ++ more else f x' dest'

theorem push_rowsOf (hn : t.size < 2 ^ 32) (hx : x.toNat < t.size) (hdest : dest.toNat < t.size) :
    push (rowsOf t f) x dest y =
      (.ok (rowsOf t (pushed f x dest [y])) : Except (Failure ε) _) := by
  rw [push, rowsOf, read_perNode hn hx]
  simp only [bind, Except.bind]
  rw [read_perNode hn hdest, modify_perNode hn]
  refine congrArg Except.ok (perNode_congr fun x' _ => ?_)
  by_cases hx' : x' = x
  · rw [if_pos hx', modify_perNode hn]
    refine perNode_congr fun dest' _ => ?_
    simp [pushed, hx']
  · rw [if_neg hx']
    refine perNode_congr fun dest' _ => ?_
    simp [pushed, hx']

/-! ### What an edge contributes -/

/-- The candidates of `x` for `dest` among the other ends of the given edges. -/
def candidatesAmong (d : DistanceTable) (edges : List Edge) (x dest : NodeId) : List NodeId :=
  (edges.filterMap fun (a, b) => if a = x then some b else if b = x then some a else none).filter
    (d.leadsTo dest x)

theorem candidatesAmong_append (d : DistanceTable) (edges edges' : List Edge) (x dest : NodeId) :
    candidatesAmong d (edges ++ edges') x dest =
      candidatesAmong d edges x dest ++ candidatesAmong d edges' x dest := by
  rw [candidatesAmong, List.filterMap_append, List.filter_append]
  rfl

theorem pushIfCloser_rowsOf (hn : t.size < 2 ^ 32) (hd : d.size = t.size) (hx : x.toNat < t.size)
    (hy : y.toNat < t.size) (hdest : dest.toNat < t.size) :
    pushIfCloser d (rowsOf t f) x dest y =
      (.ok (rowsOf t (pushed f x dest ([y].filter (d.leadsTo dest x)))) :
        Except (Failure ε) _) := by
  rw [pushIfCloser, DistanceTable.get_eq_distance (hd ▸ hy) (hd ▸ hdest),
    DistanceTable.get_eq_distance (hd ▸ hx) (hd ▸ hdest)]
  simp only [bind, Except.bind]
  rw [← DistanceTable.leadsTo]
  by_cases hlead : d.leadsTo dest x y
  · rw [if_pos hlead, push_rowsOf hn hx hdest, List.filter_cons_of_pos hlead, List.filter_nil]
  · rw [if_neg hlead, List.filter_cons_of_neg hlead, List.filter_nil]
    refine congrArg Except.ok (rowsOf_congr fun x' dest' _ => ?_)
    simp [pushed]

theorem pushEdge_rowsOf (hn : t.size < 2 ^ 32) (hd : d.size = t.size) (hne : e.1 ≠ e.2)
    (h1 : e.1.toNat < t.size) (h2 : e.2.toNat < t.size) (hdest : dest.toNat < t.size) :
    pushEdge d e (rowsOf t f) dest = (.ok (rowsOf t fun x' dest' =>
      if dest' = dest then f x' dest' ++ candidatesAmong d [e] x' dest' else f x' dest') :
        Except (Failure ε) _) := by
  obtain ⟨a, b⟩ := e
  rw [pushEdge, pushIfCloser_rowsOf hn hd h1 h2 hdest]
  refine (pushIfCloser_rowsOf hn hd h2 h1 hdest).trans ?_
  refine congrArg Except.ok (rowsOf_congr fun x' dest' _ => ?_)
  -- the two ends are different, so no cell gets both
  by_cases hdest' : dest' = dest
  · by_cases ha : a = x'
    · subst ha
      simp [pushed, candidatesAmong, hdest', hne]
    · by_cases hb : b = x'
      · subst hb
        simp [pushed, candidatesAmong, hdest', ha, Ne.symm ha]
      · simp [pushed, candidatesAmong, hdest', ha, hb, Ne.symm ha, Ne.symm hb]
  · simp [pushed, hdest']

/-- One edge is held against all destinations. -/
theorem foldlM_pushEdge (hn : t.size < 2 ^ 32) (hd : d.size = t.size) (hne : e.1 ≠ e.2)
    (h1 : e.1.toNat < t.size) (h2 : e.2.toNat < t.size) :
    t.nodes.foldlM (pushEdge d e) (rowsOf t f) =
      (.ok (rowsOf t fun x dest => f x dest ++ candidatesAmong d [e] x dest) :
        Except (Failure ε) _) := by
  -- the edge has been held against the destinations behind the fold, and not against the others
  refine (foldlM_eq_ok (fun done => rowsOf t fun x dest =>
    if dest ∈ done then f x dest ++ candidatesAmong d [e] x dest else f x dest) ?_).trans ?_
  · intro done dest hpre
    have hdest : dest.toNat < t.size := (Topology.mem_nodes hn).mp (hpre.subset (by simp))
    have hnew : dest ∉ done := by
      have hnodup := (Topology.nodup_nodes hn).sublist hpre.sublist
      rw [List.nodup_append_comm] at hnodup
      exact (List.nodup_cons.mp hnodup).1
    rw [pushEdge_rowsOf hn hd hne h1 h2 hdest]
    refine congrArg Except.ok (rowsOf_congr fun x' dest' _ => ?_)
    by_cases hdest' : dest' = dest
    · simp [hdest', hnew]
    · simp [hdest']
  · refine congrArg Except.ok (rowsOf_congr fun x dest hdest => ?_)
    rw [if_pos hdest]

/-- **Edge by edge, the table becomes the same.** -/
theorem edgeByEdge_eq (h : t.Consistent) (hn : t.size < 2 ^ 32) (hd : d.size = t.size) :
    edgeByEdge t d = (.ok (ofDistances t d) : Except (Failure ε) _) := by
  have hfold : t.edges.foldlM (fun rows e => t.nodes.foldlM (pushEdge d e) rows)
      (rowsOf t (candidatesAmong d [])) =
        (.ok (rowsOf t (candidatesAmong d t.edges)) : Except (Failure ε) _) := by
    refine foldlM_eq_ok (fun done => rowsOf t (candidatesAmong d done)) fun done e hpre => ?_
    have he : e ∈ t.edges := hpre.subset (by simp)
    rw [foldlM_pushEdge hn hd (h.fst_ne_snd he) (h.fst_lt_size he) (h.inRange e he)]
    refine congrArg Except.ok (rowsOf_congr fun x dest _ => ?_)
    rw [candidatesAmong_append]
  rw [edgeByEdge, ofDistances_eq, ← rowsOf_nil hn]
  exact bind_eq_ok.mpr ⟨_, hfold, rfl⟩

end Multipath.CandidateTable
