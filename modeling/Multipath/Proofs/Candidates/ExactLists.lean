import Multipath.Proofs.Addressing.Ranks
import Multipath.Proofs.Candidates.EdgeByEdge

/-!
# What the candidate lists are

Membership alone does not determine a list.  The list of a node and a destination has its members in
increasing order, hence none of them twice (`ListsCloser`), and this leaves only one list
(`ListsCloser.unique`).  So the candidate lists are known entirely (`exact_lists_of_build`).  By the
numbering of the interfaces their order is also the order in which the node numbers its links.
-/

namespace Multipath

variable {ε : Type} {t : Topology} {d : DistanceTable} {x y dest : NodeId} {params : Params}
variable {G : SimpleGraph NodeId} {candidates candidates' : List NodeId}

/-- The list holds the neighbours of `x` that are one hop closer to `dest`, provided that `dest` can
be reached, in increasing order. -/
structure ListsCloser (G : SimpleGraph NodeId) (dest x : NodeId) (candidates : List NodeId) :
    Prop where
  sorted : candidates.Pairwise (· < ·)
  mem_iff : ∀ y, y ∈ candidates ↔
    G.Adj x y ∧ G.Reachable x dest ∧ G.dist y dest + 1 = G.dist x dest

/-- There is only one such list. -/
theorem ListsCloser.unique (h : ListsCloser G dest x candidates)
    (h' : ListsCloser G dest x candidates') : candidates' = candidates := by
  have hperm : candidates'.Perm candidates := by
    rw [List.perm_ext_iff_of_nodup (h'.sorted.imp UInt32.ne_of_lt) (h.sorted.imp UInt32.ne_of_lt)]
    exact fun y => (h'.mem_iff y).trans (h.mem_iff y).symm
  refine List.Perm.eq_of_pairwise ?_ h'.sorted h.sorted hperm
  intro y z _ _ hyz hzy
  exact absurd hzy (UInt32.lt_asymm hyz)

theorem listsCloser_candidatesOf (h : t.Consistent) (hd : d.Exact t) (hx : x.toNat < t.size)
    (hdest : dest.toNat < t.size) : ListsCloser t.graph dest x (candidatesOf t d x dest) := by
  refine ⟨(Topology.incident_sorted h).filter _, fun y => ?_⟩
  rw [mem_candidatesOf h hd hx hdest]
  exact ⟨fun hc => ⟨hc.1, hc.reachable, hc.2⟩, fun ⟨hadj, _, hdist⟩ => ⟨hadj, hdist⟩⟩

namespace CandidateTable

/-- **The candidate lists are exactly known.**  For a topology that is not too large the table is
computed, and it is the one that the edges fill in, one after the other.  The list of `x` for `dest`
is that of the neighbours of `x` that are one hop closer, in increasing order; it is empty if `x` is
the destination.  Under the plan of the topology each neighbour is reached over an interface, and to
compare neighbours is to compare these interfaces. -/
theorem exact_lists_of_build {numNodes : UInt64} {edges : List Edge} {endpoints : List NodeId}
    (h : Topology.build numNodes edges endpoints = .ok t) (hn : numNodes.toNat < 2 ^ 32)
    (hmax : numNodes ≤ params.maxNodes) :
    ∃ d c p, DistanceTable.compute t = (.ok d : Except (Failure TopologyError) _) ∧
      edgeByEdge t d = (.ok c : Except (Failure TopologyError) _) ∧
      (compute t params).value = .ok c ∧ AddressPlan.assign t = (.ok p : Except (Failure ε) _) ∧
      ∀ x : NodeId, x.toNat < numNodes.toNat →
        (∀ dest : NodeId, dest.toNat < numNodes.toNat → ∃ candidates : List NodeId,
          c.get x dest = (.ok candidates : Except (Failure ε) _) ∧
          ListsCloser (linkGraph edges) dest x candidates ∧
          (∀ candidates', ListsCloser (linkGraph edges) dest x candidates' →
            candidates' = candidates) ∧
          (dest = x → candidates = [])) ∧
        (∀ y, (linkGraph edges).Adj x y → ∃ k k', Joined t p.indices ⟨x, k⟩ ⟨y, k'⟩) ∧
        ∀ y z k k' l l', Joined t p.indices ⟨x, k⟩ ⟨y, k'⟩ → Joined t p.indices ⟨x, l⟩ ⟨z, l'⟩ →
          (y < z ↔ k < l) := by
  have hc := Topology.consistent_of_build h
  have hsize := Topology.size_of_build h
  have hlt : t.size < 2 ^ 32 := hsize.trans_lt hn
  have hmax : t.numNodes ≤ params.maxNodes := Topology.numNodes_of_build h ▸ hmax
  obtain ⟨d, hdist, hd⟩ := DistanceTable.compute_total (ε := TopologyError) hc hlt
  obtain ⟨p, hplan, hp⟩ := exists_planned (ε := ε) hc hlt
  rw [← Topology.graph_of_build h, ← hsize]
  refine ⟨d, ofDistances t d, p, hdist, edgeByEdge_eq hc hlt hd.size_eq,
    congrArg Logged.value (compute_eq hmax hdist), hplan, fun x hx => ⟨?_, ?_, ?_⟩⟩
  · intro dest hdest
    have hlists := listsCloser_candidatesOf hc hd hx hdest
    refine ⟨_, get_ofDistances hlt hx hdest, hlists, fun _ => hlists.unique, fun heq => ?_⟩
    exact (candidatesOf_eq_nil_iff hc hd hx hdest).mpr (Or.inl heq)
  · exact fun y => exists_joined hc hp.size_indices
  · exact fun y z k k' l l' hy hz => hy.lt_iff_lt hp hz

/-- A square, where opposite corners have two candidates for each other. -/
theorem exact_lists_of_square :
    ∃ t, Topology.build 4 [(0, 1), (1, 2), (2, 3), (3, 0)] = .ok t ∧ (4 : UInt64).toNat < 2 ^ 32 ∧
      (4 : UInt64) ≤ ({} : Params).maxNodes ∧
      ∃ c candidates, (compute t {}).value = .ok c ∧
        c.get 0 2 = (.ok candidates : Except (Failure Unit) _) ∧
        ListsCloser (linkGraph [(0, 1), (1, 2), (2, 3), (3, 0)]) 2 0 candidates ∧
        c.get 2 2 = (.ok [] : Except (Failure Unit) _) := by
  have ht : Topology.build 4 [(0, 1), (1, 2), (2, 3), (3, 0)] [] = .ok _ := rfl
  have hmax : (4 : UInt64) ≤ ({} : Params).maxNodes := by decide
  obtain ⟨d, c, p, -, -, hcompute, -, hat⟩ :=
    exact_lists_of_build (ε := Unit) ht (by decide) hmax
  obtain ⟨candidates, hget, hlists, -, -⟩ := (hat 0 (by decide)).1 2 (by decide)
  obtain ⟨own, hown, -, -, hself⟩ := (hat 2 (by decide)).1 2 (by decide)
  obtain rfl := hself rfl
  exact ⟨_, ht, by decide, hmax, c, candidates, hcompute, hget, hlists, hown⟩

example : (do
    let t ← Failure.lift (Topology.build 4 [(0, 1), (1, 2), (2, 3), (3, 0)])
    let c ← (compute t {}).value
    c.get 0 2) = .ok [1, 3] := by rfl

end CandidateTable

end Multipath
