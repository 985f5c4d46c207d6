import Multipath.Proofs.Topology.Faults

/-!
# Building a topology in one pass

A topology can also be built in a single pass that fills the list of edges and the neighbour sets
side by side and sorts the list at the end.  Such a pass keeps no set of the edges behind it: whether
an edge is new is read off the neighbour set of its first end alone, and every neighbour set is looked
up by the number of its node.

* `Pass.behind` is what the pass holds behind a part of the edges.  Since every edge has been entered
  at both of its ends, the look at one end is enough (`Pass.listed_behind`);
* `buildInOnePass_eq`: the pass gives the same topology or the same fault as `build`, so no look-up
  fails.
-/

namespace Multipath.Topology

variable {n : UInt64} {done edges : List Edge} {endpoints : List NodeId} {a b : NodeId} {e f : Edge}
variable {adjacency : Array NodeSet} {fault : TopologyError} {seen : EdgeSet}

/-- What has been built from the edges so far. -/
structure Pass where
  adjacency : Array NodeSet
  /-- The edges in the order in which they came, each with its lower end first. -/
  links : List Edge

/-- Makes `b` a neighbour of `a`; the result starts with whether it is a new one. -/
def addNeighbor {ε : Type} (adjacency : Array NodeSet) (a b : NodeId) :
    Except (Failure ε) (Bool × Array NodeSet) := do
  let around ← Failure.read adjacency a.toNat
  return (!around.contains b, adjacency.modify a.toNat (·.insert b))

/-- Refuses an edge whose end `node` is no node. -/
def checkEnd (n : UInt64) (e : Edge) (node : NodeId) : Except (Failure TopologyError) Unit :=
  if n.toNat ≤ node.toNat then .error (.error (.edgeOutOfRange e.1 e.2 node n)) else .ok ()

namespace Pass

/-- Nothing has been built yet. -/
def start (n : UInt64) : Pass :=
  ⟨Array.replicate n.toNat ∅, []⟩

/-- Enters one more edge, unless it is at fault. -/
def step (n : UInt64) (p : Pass) (e : Edge) : Except (Failure TopologyError) Pass := do
  if e.1 = e.2 then throw (.error (.selfLoop e.1))
  checkEnd n e e.1
  checkEnd n e e.2
  let (isNew, adjacency) ← addNeighbor p.adjacency e.1 e.2
  if !isNew then throw (.error (.duplicateEdge e.1 e.2))
  let (_, adjacency) ← addNeighbor adjacency e.2 e.1
  return ⟨adjacency, p.links ++ [e.normalize]⟩

/-- The pass behind the edges `done`. -/
def behind (n : UInt64) (done : List Edge) : Pass :=
  ⟨done.foldl join (Array.replicate n.toNat ∅), done.map Edge.normalize⟩

end Pass

/-- The topology with the given nodes, edges and endpoints, built in one pass over the edges. -/
def buildInOnePass (n : UInt64) (edges : List Edge) (endpoints : List NodeId) :
    Except (Failure TopologyError) Topology := do
  let pass ← edges.foldlM (Pass.step n) (Pass.start n)
  let ends ← Failure.lift (endpoints.foldlM (addEndpoint n) ∅)
  return {
    numNodes := n
    edges := pass.links.mergeSort fun e f => (Edge.compare e f).isLE
    adjacency := pass.adjacency
    endpoints := ends }

/-! ### The order of the edges -/

theorem modify_insert_comm (adjacency : Array NodeSet) (i j : ℕ) (a b : NodeId) :
    (adjacency.modify i (·.insert a)).modify j (·.insert b) =
      (adjacency.modify j (·.insert b)).modify i (·.insert a) := by
  have hset : ∀ s : NodeSet, (s.insert a).insert b = (s.insert b).insert a := by
    intro s
    refine Std.ExtTreeSet.ext_contains fun c => ?_
    simp only [Std.ExtTreeSet.contains_insert, Bool.or_left_comm]
  apply Array.ext_getElem?
  intro k
  simp only [Array.getElem?_modify]
  split_ifs
  · cases adjacency[k]? with
    | none => rfl
    | some s => simp only [Option.map_some, hset]
  · rfl
  · rfl
  · rfl

theorem join_normalize (adjacency : Array NodeSet) (e : Edge) :
    join adjacency e.normalize = join adjacency e := by
  rcases e.normalize_eq_or with h | h <;> rw [h]
  exact modify_insert_comm adjacency _ _ _ _

theorem join_comm (adjacency : Array NodeSet) (e f : Edge) :
    join (join adjacency e) f = join (join adjacency f) e := by
  simp only [join]
  rw [modify_insert_comm (adjacency.modify e.1.toNat _), modify_insert_comm adjacency,
    modify_insert_comm (Array.modify _ _ _) e.2.toNat f.2.toNat,
    modify_insert_comm (adjacency.modify f.1.toNat _) e.1.toNat f.2.toNat]

/-- In the sorted set of the edges, each edge of the list stands once. -/
theorem Collected.perm_toList (h : Collected n edges seen) :
    seen.toList.Perm (edges.map Edge.normalize) := by
  have hnodup : seen.toList.Nodup :=
    Std.ExtTreeSet.distinct_toList.imp fun hne heq => hne (Edge.compare_eq_iff.mpr heq)
  refine (hnodup.subperm fun e he => ?_).perm_of_length_le ?_
  · exact (h.mem_iff e).mp (Std.ExtTreeSet.mem_toList.mp he)
  · rw [List.length_map, Std.ExtTreeSet.length_toList, h.size_eq]

theorem Collected.mergeSort_eq (h : Collected n edges seen) :
    (edges.map Edge.normalize).mergeSort (fun e f => (Edge.compare e f).isLE) = seen.toList := by
  have hsorted : seen.toList.Pairwise fun e f => (Edge.compare e f).isLE = true :=
    Std.ExtTreeSet.ordered_toList.imp fun hlt => by rw [hlt]; rfl
  refine List.Perm.eq_of_pairwise ?_ (List.pairwise_mergeSort ?_ ?_ _) hsorted
    ((List.mergeSort_perm _ _).trans h.perm_toList.symm)
  · intro e f _ _ hef hfe
    exact Edge.compare_eq_iff.mp (Std.OrientedCmp.isLE_antisymm hef hfe)
  · exact fun e f g => Std.TransCmp.isLE_trans
  · intro e f
    have hswap : Edge.compare f e = (Edge.compare e f).swap := Std.OrientedCmp.eq_swap
    rw [hswap]
    cases Edge.compare e f <;> rfl

theorem Collected.foldl_join_eq (h : Collected n edges seen) (adjacency : Array NodeSet) :
    edges.foldl join adjacency = seen.toList.foldl join adjacency := by
  rw [h.perm_toList.foldl_eq' (fun e _ f _ adjacency => join_comm adjacency e f), List.foldl_map]
  simp only [join_normalize]

/-! ### One edge -/

namespace Pass

theorem exists_addNeighbor {ε : Type} (ha : a.toNat < adjacency.size) :
    ∃ isNew, addNeighbor adjacency a b =
        (.ok (isNew, adjacency.modify a.toNat (·.insert b)) : Except (Failure ε) _) ∧
      (isNew = false ↔ Listed adjacency a b) := by
  refine ⟨!adjacency[a.toNat].contains b, ?_, ?_⟩
  · rw [addNeighbor, Failure.read_eq_ok ha]
    rfl
  · simp [Listed, ha]

theorem checkEnd_of_lt {v : NodeId} (h : v.toNat < n.toNat) : checkEnd n e v = .ok () :=
  if_neg (Nat.not_le.mpr h)

theorem checkEnd_of_le {v : NodeId} (h : n.toNat ≤ v.toNat) :
    checkEnd n e v = .error (.error (.edgeOutOfRange e.1 e.2 v n)) :=
  if_pos h

theorem size_behind : (behind n done).adjacency.size = n.toNat := by
  simp [behind, size_foldl_join]

/-- The first end knows of an edge, whichever way round the edge came. -/
theorem listed_behind (ha : a.toNat < n.toNat) :
    Listed (behind n done).adjacency a b ↔ ∃ f ∈ done, s(f.1, f.2) = s(a, b) := by
  have hempty : ¬ Listed (Array.replicate n.toNat (∅ : NodeSet)) a b := by simp [Listed, ha]
  rw [behind, listed_foldl_join done (by simpa using ha), or_iff_right hempty]
  constructor
  · rintro (h | h)
    · exact ⟨_, h, rfl⟩
    · exact ⟨_, h, Sym2.eq_swap⟩
  · rintro ⟨⟨c, d⟩, h, heq⟩
    rcases Sym2.eq_iff.mp heq with ⟨rfl, rfl⟩ | ⟨rfl, rfl⟩
    · exact Or.inl h
    · exact Or.inr h

/-- An edge that is not at fault is entered at both of its ends. -/
theorem step_behind (he : ¬ AtFault n done e) :
    (behind n done).step n e = .ok (behind n (done ++ [e])) := by
  obtain ⟨hne, h1, h2, hnew⟩ := not_atFault_iff.mp he
  have hfirst : e.1.toNat < (behind n done).adjacency.size := size_behind.symm ▸ h1
  obtain ⟨isNew, hadd, hlisted⟩ := exists_addNeighbor (ε := TopologyError) (b := e.2) hfirst
  have hisNew : isNew = true := by
    by_contra hold
    rw [Bool.not_eq_true, hlisted, listed_behind h1] at hold
    obtain ⟨f, hf, hends⟩ := hold
    exact hnew f hf hends
  have hsecond : e.2.toNat <
      ((behind n done).adjacency.modify e.1.toNat (·.insert e.2)).size := by
    rw [Array.size_modify, size_behind]
    exact h2
  obtain ⟨isNew', hadd', -⟩ := exists_addNeighbor (ε := TopologyError) (b := e.1) hsecond
  simp only [step, if_neg hne, checkEnd_of_lt h1, checkEnd_of_lt h2, hadd, hisNew, hadd', bind,
    Except.bind]
  simp [behind, join, pure, Except.pure]

/-- An edge at fault is refused, for the fault that is looked for first. -/
theorem step_behind_eq_error (hf : EdgeFault n done e fault) :
    (behind n done).step n e = .error (.error fault) := by
  cases hf with
  | selfLoop a =>
      simp [step, bind, Except.bind, throw, throwThe, MonadExceptOf.throw]
  | firstEnd a b hne ha =>
      simp only [step, if_neg hne, checkEnd_of_le ha, bind, Except.bind]
  | secondEnd a b hne ha hb =>
      simp only [step, if_neg hne, checkEnd_of_lt ha, checkEnd_of_le hb, bind, Except.bind]
  | repeated a b hne ha hb hold =>
      have hfirst : a.toNat < (behind n done).adjacency.size := size_behind.symm ▸ ha
      obtain ⟨isNew, hadd, hlisted⟩ := exists_addNeighbor (ε := TopologyError) (b := b) hfirst
      have hisNew : isNew = false := hlisted.mpr ((listed_behind ha).mpr hold)
      simp only [step, if_neg hne, checkEnd_of_lt ha, checkEnd_of_lt hb, hadd, hisNew, bind,
        Except.bind]
      rfl

/-! ### The whole pass -/

theorem foldlM_step (h : Faultless n edges) :
    edges.foldlM (step n) (start n) = .ok (behind n edges) :=
  foldlM_eq_ok (behind n) fun done e hpre => step_behind (h done e hpre)

theorem foldlM_step_eq_error {before after : List Edge} (hbefore : Faultless n before)
    (hf : EdgeFault n before e fault) :
    (before ++ e :: after).foldlM (step n) (start n) = .error (.error fault) :=
  foldlM_eq_error_iff.mpr ⟨before, e, after, behind n before, rfl, foldlM_step hbefore,
    step_behind_eq_error hf⟩

end Pass

/-- **One pass over the edges is enough.**  It gives the topology or the fault of `build`, and reads
nothing out of bounds. -/
theorem buildInOnePass_eq (n : UInt64) (edges : List Edge) (endpoints : List NodeId) :
    buildInOnePass n edges endpoints = Failure.lift (build n edges endpoints) := by
  cases h : build n edges endpoints with
  | ok t =>
      obtain ⟨links, ends, hlinks, hends, rfl⟩ := build_eq_ok h
      have hc := collected_of_foldlM hlinks
      rw [buildInOnePass, Pass.foldlM_step (exists_foldlM_addEdge_iff.mp ⟨links, hlinks⟩), hends]
      simp only [bind, Except.bind, Failure.lift_ok, Pass.behind, hc.mergeSort_eq, hc.foldl_join_eq]
      rfl
  | error fault =>
      rw [Failure.lift_error, buildInOnePass, bind_eq_error]
      cases build_eq_error_iff.mp h with
      | edge before after e _ hsplit hbefore hfault =>
          rw [hsplit]
          exact Or.inl (Pass.foldlM_step_eq_error hbefore hfault)
      | endpoint before after v hedges hsplit hbefore hv =>
          have hends := foldlM_addEndpoint_eq_error_iff.mpr
            ⟨before, v, after, hsplit, hbefore, hv, rfl⟩
          refine Or.inr ⟨_, Pass.foldlM_step hedges, bind_eq_error.mpr (Or.inl ?_)⟩
          rw [hends, Failure.lift_error]

/-- **A description is refused exactly if it is malformed, for its first fault.**  An edge is looked
at before the edges behind it, and the endpoints behind all edges.  Faults of one edge are looked for
in the order of `EdgeFault`.  However malformed the description, no look-up is out of bounds. -/
theorem refused_for_first_fault (n : UInt64) (edges : List Edge) (endpoints : List NodeId) :
    ((∃ fault, build n edges endpoints = .error fault) ↔
      (∃ e ∈ edges, e.1 = e.2) ∨ (∃ e ∈ edges, n.toNat ≤ e.1.toNat ∨ n.toNat ≤ e.2.toNat) ∨
        (∃ (i j : ℕ) (e f : Edge), i ≠ j ∧ edges[i]? = some e ∧ edges[j]? = some f ∧
          s(e.1, e.2) = s(f.1, f.2)) ∨
        ∃ v ∈ endpoints, n.toNat ≤ v.toNat) ∧
    (∀ fault, build n edges endpoints = .error fault ↔ FirstFault n edges endpoints fault) ∧
    buildInOnePass n edges endpoints = Failure.lift (build n edges endpoints) ∧
    ∀ length index, buildInOnePass n edges endpoints ≠ .error (.outOfBounds length index) := by
  have hpass := buildInOnePass_eq n edges endpoints
  refine ⟨exists_build_error_iff, fun fault => build_eq_error_iff, hpass, ?_⟩
  intro length index
  rw [hpass]
  cases build n edges endpoints with
  | ok t => simp
  | error fault => simp

/-- The second edge comes before the third, and its repetition of the first is noticed although
endpoints are wrong, too. -/
example : build 3 [(0, 1), (1, 0), (2, 2)] [5] = .error (.duplicateEdge 1 0) := rfl

end Multipath.Topology
