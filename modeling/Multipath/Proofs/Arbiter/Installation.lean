import Multipath.Proofs.Arbiter.Installed

/-!
# The outcome of an installation

An installation asks for the arbiters of the nodes in increasing order and stops at the first that
cannot be made.  The interface numbers come from a plan that need not fit the topology, so three things
can go wrong: there are too many nodes, there are numbers for another count of edges, or an edge got the
number of loop-back.  In the last case many edges may be at fault on either side; `FirstReserved` says
which of them is reported.  The node decides first and the order of the edges second.

`Yields` is the outcome together with the announcements that were made on the way, and
`installation_of_build` lists all outcomes with their conditions.
-/

namespace Multipath

variable {t : Topology} {p : AddressPlan} {params : Params} {d : DistanceTable} {v : NodeId}
variable {indices : Array (UInt32 × UInt32)} {side : Edge × (UInt32 × UInt32)} {e : Edge}
variable {resolver : Resolver} {hashSalt : UInt32} {node bad count : ℕ}
variable {rows : List (Array (List NodeId))} {fault : Failure TopologyError}

/-- The number of `v` on this edge is that of loop-back. -/
def Reserves (v : NodeId) (side : Edge × (UInt32 × UInt32)) : Prop :=
  side.1.1 = v ∧ side.2.1 = 0 ∨ side.1.2 = v ∧ side.2.2 = 0

instance : Decidable (Reserves v side) :=
  inferInstanceAs (Decidable (_ ∨ _))

/-- Some interface has the number of loop-back. -/
def HasReserved (t : Topology) (indices : Array (UInt32 × UInt32)) : Prop :=
  ∃ side ∈ t.edges.zip indices.toList, side.2.1 = 0 ∨ side.2.2 = 0

/-- Of all nodes with the number of loop-back on some edge, `v` is the smallest, and `e` is the first
of the edges on which it has this number. -/
structure FirstReserved (t : Topology) (indices : Array (UInt32 × UInt32)) (v : NodeId) (e : Edge) :
    Prop where
  least : ∀ w, w < v → ∀ side ∈ t.edges.zip indices.toList, ¬ Reserves w side
  first : ∃ before numbers after, t.edges.zip indices.toList = before ++ (e, numbers) :: after ∧
    Reserves v (e, numbers) ∧ ∀ side ∈ before, ¬ Reserves v side

/-- The installation ends with `r`, and it has announced the first `count` nodes. -/
structure Yields (t : Topology) (p : AddressPlan) (params : Params)
    (r : Except (Failure TopologyError) (List (Arbiter Ecmp))) (count : ℕ) : Prop where
  value_eq : (installEcmp t p params).value = r
  debug_eq : ((installEcmp t p params).log.filter fun r => r.level = .debug).map LogRecord.text =
    (List.range count).map fun k => s!"Installing ECMP arbiter on node {k}"

/-- The arbiter is that of the node `x`: it has the candidates of its row, and it leads to the
neighbours, and to nothing else, over the interfaces that they are joined to. -/
structure ArbiterOf (t : Topology) (indices : Array (UInt32 × UInt32)) (c : CandidateTable)
    (x : NodeId) (a : Arbiter Ecmp) : Prop where
  node_eq : a.node = x
  size_candidates : a.policy.candidates.size = t.size
  candidates_eq : ∀ dest : NodeId, dest.toNat < t.size →
    c.get x dest = (.ok (a.policy.candidatesFor dest) : Except (Failure TopologyError) _)
  exists_linkTo : ∀ y, t.graph.Adj x y → ∃ link far,
    a.linkTo y = some link ∧ Joined t indices ⟨x, link.val⟩ ⟨y, far⟩
  linkTo_eq_none : ∀ y, ¬ t.graph.Adj x y → a.linkTo y = none

/-! ### Numbers of loop-back -/

theorem reserves_iff : Reserves v side ↔ ∃ y k', Ends side ⟨v, 0⟩ ⟨y, k'⟩ := by
  obtain ⟨⟨a, b⟩, ka, kb⟩ := side
  simp only [Reserves, Ends, LinkEnd.mk.injEq]
  constructor
  · rintro (⟨rfl, rfl⟩ | ⟨rfl, rfl⟩)
    · exact ⟨b, kb, Or.inl ⟨⟨rfl, rfl⟩, rfl, rfl⟩⟩
    · exact ⟨a, ka, Or.inr ⟨⟨rfl, rfl⟩, rfl, rfl⟩⟩
  · rintro ⟨y, k', ⟨⟨rfl, rfl⟩, -⟩ | ⟨⟨rfl, rfl⟩, -⟩⟩
    · exact Or.inl ⟨rfl, rfl⟩
    · exact Or.inr ⟨rfl, rfl⟩

theorem hasReserved_iff :
    HasReserved t indices ↔ ∃ v, ∃ side ∈ t.edges.zip indices.toList, Reserves v side := by
  constructor
  · rintro ⟨side, hside, h0 | h0⟩
    · exact ⟨side.1.1, side, hside, Or.inl ⟨rfl, h0⟩⟩
    · exact ⟨side.1.2, side, hside, Or.inr ⟨rfl, h0⟩⟩
  · rintro ⟨v, side, hside, ⟨-, h0⟩ | ⟨-, h0⟩⟩
    · exact ⟨side, hside, Or.inl h0⟩
    · exact ⟨side, hside, Or.inr h0⟩

theorem lt_size_of_reserves (h : t.Consistent) (hside : side ∈ t.edges.zip indices.toList)
    (hv : Reserves v side) : v.toNat < t.size := by
  obtain ⟨y, k', hends⟩ := reserves_iff.mp hv
  have hj : Joined t indices ⟨v, 0⟩ ⟨y, k'⟩ := ⟨side, hside, hends⟩
  exact h.adj_lt_size (hj.adj h).symm

theorem ne_zero_of_not_reserves (hside : ¬ Reserves v side) {y : NodeId} {k k' : UInt32}
    (hends : Ends side ⟨v, k⟩ ⟨y, k'⟩) : k ≠ 0 := by
  rintro rfl
  exact hside (reserves_iff.mpr ⟨y, k', hends⟩)

/-- If the number of loop-back was given to any edge, there is one to be reported. -/
theorem exists_firstReserved (h : HasReserved t indices) : ∃ v e, FirstReserved t indices v e := by
  obtain ⟨v, ⟨side, hside, hreserves⟩, hleast⟩ := (measure UInt32.toNat).wf.has_min
    {v | ∃ side ∈ t.edges.zip indices.toList, Reserves v side} (hasReserved_iff.mp h)
  -- of the edges of the smallest node, the search finds the first
  obtain ⟨⟨e, numbers⟩, hfound⟩ : ∃ found,
      (t.edges.zip indices.toList).find? (fun side => Reserves v side) = some found := by
    rw [← Option.isSome_iff_exists, List.find?_isSome]
    exact ⟨side, hside, by simpa using hreserves⟩
  obtain ⟨hfirst, before, after, hsplit, hbefore⟩ := List.find?_eq_some_iff_append.mp hfound
  refine ⟨v, e, ?_, before, numbers, after, hsplit, by simpa using hfirst, ?_⟩
  · intro w hlt side hside hw
    exact hleast w ⟨side, hside, hw⟩ (UInt32.lt_iff_toNat_lt.mp hlt)
  · intro side hside
    simpa using hbefore side hside

namespace InterfaceMap

theorem ofEdges_eq_mismatch (hsize : indices.size ≠ t.edges.length) : ofEdges t v indices =
    .error (.error (.interfaceCountMismatch t.edges.length indices.size)) := by
  rw [ofEdges, if_pos hsize]

variable (h : t.Consistent) (hv : v.toNat < t.size) (hsize : indices.size = t.edges.length)
include h hv hsize

theorem exists_ofEdges (hnone : ∀ side ∈ t.edges.zip indices.toList, ¬ Reserves v side) :
    ∃ links, ofEdges t v indices = .ok links := by
  obtain ⟨links, hlinks, -⟩ := ofEdges_total h hv hsize fun y k k' ⟨side, hside, hends⟩ =>
    ne_zero_of_not_reserves (hnone side hside) hends
  exact ⟨links, hlinks⟩

/-- The first edge on which the node has the number of loop-back is reported. -/
theorem ofEdges_eq_reserved {before after : List (Edge × (UInt32 × UInt32))}
    (hsplit : t.edges.zip indices.toList = before ++ side :: after) (hside : Reserves v side)
    (hbefore : ∀ side ∈ before, ¬ Reserves v side) :
    ofEdges t v indices = .error (.error (.reservedInterface side.1.1 side.1.2)) := by
  obtain ⟨links, hlinks, -⟩ := exists_foldlM_addEdge (v := v) h hsize
    ⟨side :: after, hsplit.symm⟩ fun side' hside' y k k' hends =>
      ne_zero_of_not_reserves (hbefore side' hside') hends
  have he : side.1 ∈ t.edges :=
    (List.of_mem_zip (b := side.2) (hsplit ▸ by simp : side ∈ t.edges.zip indices.toList)).1
  obtain ⟨y, k', hends⟩ := reserves_iff.mp hside
  rw [ofEdges_eq_bind hsize hv, bind_eq_error]
  refine Or.inl (foldlM_eq_error_iff.mpr ⟨before, side, after, links, hsplit, hlinks, ?_⟩)
  exact addEdge_eq_reserved (h.fst_ne_snd he) hends

end InterfaceMap

/-! ### The nodes in their order -/

/-- The records that announce `count` nodes from `node` on. -/
def announcements (node count : ℕ) : List LogRecord :=
  (List.range' node count).map fun i => .installing (UInt32.ofNat i)

theorem announcements_succ (node count : ℕ) : announcements node (count + 1) =
    .installing (UInt32.ofNat node) :: announcements (node + 1) count := rfl

theorem debug_announcements (node count : ℕ) :
    (announcements node count).filter (fun r => r.level = .debug) = announcements node count := by
  rw [List.filter_eq_self]
  intro r hr
  obtain ⟨i, -, rfl⟩ := List.mem_map.mp hr
  rfl

theorem text_announcements (h : count ≤ 2 ^ 32) : (announcements 0 count).map LogRecord.text =
    (List.range count).map fun k => s!"Installing ECMP arbiter on node {k}" := by
  rw [announcements, List.map_map, ← List.range_eq_range']
  refine List.map_congr_left fun k hk => ?_
  have hnat : (UInt32.ofNat k).toNat = k :=
    UInt32.toNat_ofNat_of_lt' ((List.mem_range.mp hk).trans_le h)
  show s!"Installing ECMP arbiter on node {(UInt32.ofNat k).toNat}" = _
  rw [hnat]

theorem installRows_cons_of_error (hnode : InterfaceMap.ofEdges t (UInt32.ofNat node) p.indices =
    .error fault) (row : Array (List NodeId)) :
    installRows t p resolver hashSalt node (row :: rows) =
      ⟨announcements node 1, .error fault⟩ := by
  rw [installRows, Arbiter.create, hnode]
  rfl

theorem installRows_cons_of_ok {links : InterfaceMap}
    (hnode : InterfaceMap.ofEdges t (UInt32.ofNat node) p.indices = .ok links)
    (row : Array (List NodeId)) :
    installRows t p resolver hashSalt node (row :: rows) =
      ⟨.installing (UInt32.ofNat node) :: (installRows t p resolver hashSalt (node + 1) rows).log,
        (installRows t p resolver hashSalt (node + 1) rows).value.map
          (⟨UInt32.ofNat node, t, resolver, links, ⟨row, hashSalt⟩⟩ :: ·)⟩ := by
  rw [installRows, Arbiter.create, hnode, ← List.append_nil (Logged.log _)]
  rfl

/-- If nothing is wrong, all nodes are announced. -/
theorem log_installRows (h : ∀ i, node ≤ i → i < node + rows.length →
      ∃ links, InterfaceMap.ofEdges t (UInt32.ofNat i) p.indices = .ok links) :
    (installRows t p resolver hashSalt node rows).log = announcements node rows.length := by
  induction rows generalizing node with
  | nil => rfl
  | cons row rows ih =>
      obtain ⟨links, hlinks⟩ := h node le_rfl (by simp)
      rw [installRows_cons_of_ok hlinks, List.length_cons, announcements_succ, ih]
      intro i hi hlt
      exact h i (by omega) (by rw [List.length_cons]; omega)

/-- The first node whose arbiter cannot be made is the last that is announced. -/
theorem installRows_of_error (h : ∀ i, node ≤ i → i < bad →
      ∃ links, InterfaceMap.ofEdges t (UInt32.ofNat i) p.indices = .ok links)
    (hbad : InterfaceMap.ofEdges t (UInt32.ofNat bad) p.indices = .error fault)
    (hle : node ≤ bad) (hlt : bad < node + rows.length) :
    installRows t p resolver hashSalt node rows =
      ⟨announcements node (bad - node + 1), .error fault⟩ := by
  induction rows generalizing node with
  | nil => exact absurd hlt (by simpa using hle)
  | cons row rows ih =>
      rcases Nat.eq_or_lt_of_le hle with rfl | hlater
      · rw [installRows_cons_of_error hbad, Nat.sub_self]
      · obtain ⟨links, hlinks⟩ := h node le_rfl hlater
        rw [List.length_cons] at hlt
        have hothers : installRows t p resolver hashSalt (node + 1) rows =
            ⟨announcements (node + 1) (bad - (node + 1) + 1), .error fault⟩ :=
          ih (fun i hi => h i (by omega)) hlater (by omega)
        have hcount : bad - node = bad - (node + 1) + 1 := by omega
        rw [installRows_cons_of_ok hlinks, hothers, hcount, announcements_succ node]
        rfl

/-! ### The installation -/

theorem Installed.arbiterOf {a : Arbiter Ecmp} (ha : Installed t p d hashSalt v a) (h : t.Consistent)
    (hn : t.size < 2 ^ 32) (hv : v.toNat < t.size)
    (hlinks : ∀ y, t.graph.Adj v y → ∃ l, a.linkTo y = some l) :
    ArbiterOf t p.indices (CandidateTable.ofDistances t d) v a where
  node_eq := ha.node_eq
  size_candidates := by simp [ha.policy_eq, CandidateTable.row_eq, Topology.nodes_eq hn]
  candidates_eq dest hdest := by
    rw [CandidateTable.get_ofDistances hn hv hdest, ha.candidatesFor_eq hn hdest]
  exists_linkTo y hadj := by
    obtain ⟨l, hl⟩ := hlinks y hadj
    obtain ⟨far, hj⟩ := (ha.linkTo_iff y l).mp hl
    exact ⟨l, far, hl, hj⟩
  linkTo_eq_none y := eq_none_of_not_adj h fun l => (ha.linkTo_iff y l).mp

theorem yields_tooManyNodes (hlarge : params.maxNodes < t.numNodes) :
    Yields t p params (.error (.error (.tooManyNodes t.numNodes params.maxNodes))) 0 := by
  have hcompute : CandidateTable.compute t params =
      pure (.error (.error (.tooManyNodes t.numNodes params.maxNodes))) := by
    rw [CandidateTable.compute, if_pos hlarge]
  constructor
  · rw [installEcmp, hcompute]
    rfl
  · rw [installEcmp, hcompute]
    rfl

section Installing

variable (h : t.Consistent) (hn : t.size < 2 ^ 32) (hmax : t.numNodes ≤ params.maxNodes)
include h hn hmax

/-- With the candidates at hand, only the arbiters are left.  The one record that comes before them is
a warning. -/
theorem exists_rows (p : AddressPlan) : ∃ rows : List (Array (List NodeId)), rows.length = t.size ∧
    ∀ r count, count ≤ t.size →
      installRows t p p.resolver params.hashSalt 0 rows = ⟨announcements 0 count, r⟩ →
      Yields t p params r count := by
  obtain ⟨d, hd, -⟩ := DistanceTable.compute_total (ε := TopologyError) h hn
  have hcompute := CandidateTable.compute_eq hmax hd
  refine ⟨(CandidateTable.ofDistances t d).rows.toList, ?_, ?_⟩
  · simp [CandidateTable.ofDistances, Topology.nodes_eq hn]
  · intro r count hcount hrows
    constructor
    · rw [installEcmp, Logged.value_bind, hcompute]
      exact congrArg Logged.value hrows
    · rw [installEcmp, Logged.log_bind, hcompute]
      simp only [hrows]
      rw [List.filter_append, debug_announcements,
        ← text_announcements (hcount.trans hn.le)]
      split_ifs <;> rfl

theorem yields_nil (hsize : t.size = 0) : Yields t p params (.ok []) 0 := by
  obtain ⟨rows, hlength, hrows⟩ := exists_rows h hn hmax p
  obtain rfl : rows = [] := List.eq_nil_of_length_eq_zero (hlength.trans hsize)
  exact hrows _ 0 (Nat.zero_le _) rfl

theorem yields_of_error (hv : v.toNat < t.size)
    (hbad : InterfaceMap.ofEdges t v p.indices = .error fault)
    (hbefore : ∀ w, w < v → ∃ links, InterfaceMap.ofEdges t w p.indices = .ok links) :
    Yields t p params (.error fault) (v.toNat + 1) := by
  obtain ⟨rows, hlength, hrows⟩ := exists_rows h hn hmax p
  replace hbad : InterfaceMap.ofEdges t (UInt32.ofNat v.toNat) p.indices = .error fault := by
    rwa [UInt32.ofNat_toNat]
  have hgood : ∀ i, 0 ≤ i → i < v.toNat →
      ∃ links, InterfaceMap.ofEdges t (UInt32.ofNat i) p.indices = .ok links := by
    intro i _ hi
    refine hbefore _ (UInt32.lt_iff_toNat_lt.mpr ?_)
    rwa [UInt32.toNat_ofNat_of_lt' (hi.trans v.toNat_lt)]
  have hrow : v.toNat < 0 + rows.length := by rwa [Nat.zero_add, hlength]
  exact hrows _ _ hv (installRows_of_error hgood hbad (Nat.zero_le _) hrow)

/-- Interface numbers for another count of edges are noticed at the first node. -/
theorem yields_mismatch (hpos : 0 < t.size) (hsize : p.indices.size ≠ t.edges.length) :
    Yields t p params
      (.error (.error (.interfaceCountMismatch t.edges.length p.indices.size))) 1 :=
  yields_of_error h hn hmax (v := 0) hpos (InterfaceMap.ofEdges_eq_mismatch hsize)
    fun _ hw => absurd hw UInt32.not_lt_zero

theorem yields_reserved (hsize : p.indices.size = t.edges.length)
    (hfirst : FirstReserved t p.indices v e) :
    Yields t p params (.error (.error (.reservedInterface e.1 e.2))) (v.toNat + 1) := by
  obtain ⟨before, numbers, after, hsplit, hside, hbefore⟩ := hfirst.first
  have hmem : (e, numbers) ∈ t.edges.zip p.indices.toList := hsplit ▸ by simp
  have hv : v.toNat < t.size := lt_size_of_reserves h hmem hside
  refine yields_of_error h hn hmax hv
    (InterfaceMap.ofEdges_eq_reserved h hv hsize hsplit hside hbefore) ?_
  intro w hw
  exact InterfaceMap.exists_ofEdges h ((UInt32.lt_iff_toNat_lt.mp hw).trans hv) hsize
    (hfirst.least w hw)

/-- An installation that goes through gives each node its arbiter. -/
theorem exists_yields_ok (hsize : p.indices.size = t.edges.length)
    (hnone : ¬ HasReserved t p.indices) :
    ∃ c arbiters, (CandidateTable.compute t params).value = .ok c ∧
      Yields t p params (.ok arbiters) t.size ∧ arbiters.length = t.size ∧
      ∀ x : NodeId, x.toNat < t.size →
        ∃ a, arbiters[x.toNat]? = some a ∧ ArbiterOf t p.indices c x a := by
  obtain ⟨rows, hlength, hrows⟩ := exists_rows h hn hmax p
  have hall : ∀ i, 0 ≤ i → i < 0 + rows.length →
      ∃ links, InterfaceMap.ofEdges t (UInt32.ofNat i) p.indices = .ok links := by
    intro i _ hi
    refine InterfaceMap.exists_ofEdges h ?_ hsize
      fun side hside hv => hnone (hasReserved_iff.mpr ⟨_, side, hside, hv⟩)
    rw [UInt32.toNat_ofNat_of_lt' (by simp only [UInt32.size]; omega)]
    omega
  obtain ⟨arbiters, harbiters⟩ := exists_installRows p.resolver params.hashSalt 0 rows hall
  have hyields : Yields t p params (.ok arbiters) t.size :=
    hrows _ _ le_rfl (by rw [← harbiters, ← hlength, ← log_installRows hall])
  obtain ⟨d, -, hcompute, hcount, hat⟩ := exists_installed_of_installEcmp h hn hyields.value_eq
  refine ⟨_, arbiters, hcompute, hyields, hcount, ?_⟩
  intro x hx
  obtain ⟨a, ha, hinstalled, hlinks⟩ := hat x hx
  exact ⟨a, ha, hinstalled.arbiterOf h hn hx hlinks⟩

end Installing

/-! ### All outcomes -/

/-- Each of the three reports has its condition. -/
theorem reports_iff (h : t.Consistent) (hn : t.size < 2 ^ 32) (p : AddressPlan) (params : Params) :
    ((∃ n m, (installEcmp t p params).value = .error (.error (.tooManyNodes n m))) ↔
      params.maxNodes < t.numNodes) ∧
    ((∃ n m, (installEcmp t p params).value = .error (.error (.interfaceCountMismatch n m))) ↔
      t.numNodes ≤ params.maxNodes ∧ 0 < t.size ∧ p.indices.size ≠ t.edges.length) ∧
    ((∃ a b, (installEcmp t p params).value = .error (.error (.reservedInterface a b))) ↔
      t.numNodes ≤ params.maxNodes ∧ p.indices.size = t.edges.length ∧ HasReserved t p.indices) := by
  -- the conditions exclude each other, and in each case the outcome is known
  by_cases hlarge : params.maxNodes < t.numNodes
  · have hnot : ¬ t.numNodes ≤ params.maxNodes := UInt64.not_le.mpr hlarge
    simp [(yields_tooManyNodes (p := p) hlarge).value_eq, hlarge, hnot]
  have hmax : t.numNodes ≤ params.maxNodes := UInt64.not_lt.mp hlarge
  rcases Nat.eq_zero_or_pos t.size with hzero | hpos
  · have hnone : ¬ HasReserved t p.indices := by
      intro hsome
      obtain ⟨v, side, hside, hv⟩ := hasReserved_iff.mp hsome
      exact absurd (lt_size_of_reserves h hside hv) (by omega)
    simp [(yields_nil (p := p) h hn hmax hzero).value_eq, hlarge, hzero, hnone]
  by_cases hsize : p.indices.size = t.edges.length
  · by_cases hsome : HasReserved t p.indices
    · obtain ⟨v, e, hfirst⟩ := exists_firstReserved hsome
      simp [(yields_reserved h hn hmax hsize hfirst).value_eq, hmax, hlarge, hsize, hsome]
    · obtain ⟨c, arbiters, -, hyields, -⟩ := exists_yields_ok h hn hmax hsize hsome
      simp [hyields.value_eq, hlarge, hsize, hsome]
  · simp [(yields_mismatch h hn hmax hpos hsize).value_eq, hmax, hlarge, hpos, hsize]

/-- **The outcome of an installation.**  Whatever the plan is, the installation

* reports too many nodes, or gives no arbiter because there is no node;
* or else reports at the first node that the interface numbers are for another count of edges;
* or else reports the first edge on which the smallest node with a number of loop-back has it;
* or else gives every node its arbiter: with the candidates of the node, and with the interface to each
  neighbour that the plan numbers.

Each node is announced before its arbiter is made, and none after the first fault. -/
theorem installation_of_build {numNodes : UInt64} {edges : List Edge} {endpoints : List NodeId}
    (h : Topology.build numNodes edges endpoints = .ok t) (hn : numNodes.toNat < 2 ^ 32)
    (p : AddressPlan) (params : Params) :
    -- which fault is reported
    ((∃ n m, (installEcmp t p params).value = .error (.error (.tooManyNodes n m))) ↔
      params.maxNodes < numNodes) ∧
    ((∃ n m, (installEcmp t p params).value = .error (.error (.interfaceCountMismatch n m))) ↔
      numNodes ≤ params.maxNodes ∧ 0 < numNodes ∧ p.indices.size ≠ edges.length) ∧
    ((∃ a b, (installEcmp t p params).value = .error (.error (.reservedInterface a b))) ↔
      numNodes ≤ params.maxNodes ∧ p.indices.size = edges.length ∧ HasReserved t p.indices) ∧
    -- what is reported, and what has been announced by then
    (params.maxNodes < numNodes →
      Yields t p params (.error (.error (.tooManyNodes numNodes params.maxNodes))) 0) ∧
    (numNodes ≤ params.maxNodes →
      (numNodes = 0 → Yields t p params (.ok []) 0) ∧
      (0 < numNodes → p.indices.size ≠ edges.length → Yields t p params
        (.error (.error (.interfaceCountMismatch edges.length p.indices.size))) 1) ∧
      (p.indices.size = edges.length → HasReserved t p.indices →
        (∃ v e, FirstReserved t p.indices v e) ∧ ∀ v e, FirstReserved t p.indices v e →
          Yields t p params (.error (.error (.reservedInterface e.1 e.2))) (v.toNat + 1)) ∧
      (0 < numNodes → p.indices.size = edges.length → ¬ HasReserved t p.indices →
        ∃ c arbiters, (CandidateTable.compute t params).value = .ok c ∧
          Yields t p params (.ok arbiters) numNodes.toNat ∧ arbiters.length = numNodes.toNat ∧
          ∀ x : NodeId, x.toNat < numNodes.toNat →
            ∃ a, arbiters[x.toNat]? = some a ∧ ArbiterOf t p.indices c x a)) := by
  have hc := Topology.consistent_of_build h
  have hsize := Topology.size_of_build h
  have hlt : t.size < 2 ^ 32 := hsize.trans_lt hn
  have hpos : 0 < numNodes ↔ 0 < t.size := by rw [hsize, UInt64.lt_iff_toNat_lt]; rfl
  have hzero : numNodes = 0 ↔ t.size = 0 := by rw [hsize, ← UInt64.toNat_inj]; rfl
  obtain rfl := Topology.numNodes_of_build h
  rw [← Topology.length_edges_of_build h, ← hsize, hpos, hzero]
  obtain ⟨htoo, hcount, hreserved⟩ := reports_iff hc hlt p params
  refine ⟨htoo, hcount, hreserved, yields_tooManyNodes, fun hmax => ⟨yields_nil hc hlt hmax,
    yields_mismatch hc hlt hmax, ?_, fun _ => exists_yields_ok hc hlt hmax⟩⟩
  intro hindices hsome
  exact ⟨exists_firstReserved hsome, fun v e => yields_reserved hc hlt hmax hindices⟩

/-- A ring of four nodes.  Two interfaces have the number of loop-back, that of node 3 on the edge
`(0, 3)` and that of node 1 on the edge `(1, 2)`.  Although the former edge comes first, the latter is
reported, because node 1 is asked first.  With two other numbers all arbiters are made, and that of
node 2 leads to node 3 over the interface 8. -/
theorem installation_in_ring :
    ∃ t, Topology.build 4 [(0, 1), (1, 2), (2, 3), (3, 0)] = .ok t ∧ (4 : UInt64).toNat < 2 ^ 32 ∧
      Yields t ⟨#[(1, 2), (3, 0), (0, 6), (8, 9)], #[]⟩ {}
        (.error (.error (.reservedInterface 1 2))) 2 ∧
      ∃ arbiters a link, Yields t ⟨#[(1, 2), (3, 4), (5, 6), (8, 9)], #[]⟩ {} (.ok arbiters) 4 ∧
        arbiters[2]? = some a ∧ a.linkTo 3 = some link ∧ link.val = 8 ∧ a.linkTo 0 = none := by
  obtain ⟨t, ht, hedges⟩ : ∃ t, Topology.build 4 [(0, 1), (1, 2), (2, 3), (3, 0)] = .ok t ∧
      t.edges = [(0, 1), (0, 3), (1, 2), (2, 3)] := ⟨_, rfl, rfl⟩
  refine ⟨t, ht, by decide, ?_, ?_⟩
  · obtain ⟨-, -, -, -, hcases⟩ := installation_of_build ht (by decide)
      ⟨#[(1, 2), (3, 0), (0, 6), (8, 9)], #[]⟩ {}
    obtain ⟨-, -, hreserved, -⟩ := hcases (by decide)
    have hsome : HasReserved t #[(1, 2), (3, 0), (0, 6), (8, 9)] := by
      simp [HasReserved, hedges]
    refine (hreserved rfl hsome).2 1 (1, 2) ⟨?_, ?_⟩
    · intro w hw
      obtain rfl : w = 0 := UInt32.lt_one_iff.mp hw
      simp [hedges, Reserves]
    · rw [hedges]
      exact ⟨[((0, 1), (1, 2)), ((0, 3), (3, 0))], (0, 6), [((2, 3), (8, 9))], rfl,
        by simp [Reserves]⟩
  · obtain ⟨-, -, -, -, hcases⟩ := installation_of_build ht (by decide)
      ⟨#[(1, 2), (3, 4), (5, 6), (8, 9)], #[]⟩ {}
    obtain ⟨-, -, -, hmade⟩ := hcases (by decide)
    have hnone : ¬ HasReserved t #[(1, 2), (3, 4), (5, 6), (8, 9)] := by
      simp [HasReserved, hedges]
    obtain ⟨c, arbiters, -, hyields, -, hat⟩ := hmade (by decide) rfl hnone
    obtain ⟨a, ha, harbiter⟩ := hat 2 (by decide)
    have hgraph : t.graph = linkGraph [(0, 1), (1, 2), (2, 3), (3, 0)] := Topology.graph_of_build ht
    obtain ⟨link, far, hlink, hj⟩ :=
      harbiter.exists_linkTo 3 (hgraph ▸ linkGraph_adj.mpr (by decide))
    refine ⟨arbiters, a, link, hyields, ha, hlink, ?_, harbiter.linkTo_eq_none 0 ?_⟩
    · rw [Joined, hedges] at hj
      obtain ⟨hnumber, -⟩ : link.val = 8 ∧ far = 9 := by simpa [Ends] using hj
      exact hnumber
    · rw [hgraph, linkGraph_adj]
      decide

end Multipath
