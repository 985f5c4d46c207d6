import Multipath.Proofs.Addressing.Ownership
import Multipath.Proofs.Arbiter.Decide
import Multipath.Proofs.Arbiter.Links
import Multipath.Proofs.Candidates.ShortestPaths

/-!
# The installed arbiters

Installation under the plan of a consistent topology succeeds and gives every node its arbiter
(`exists_installed`).  Under the plan of another topology it may fail, but if it goes through then
every node has its arbiter as well (`exists_installed_of_installEcmp`).  What such an arbiter does
with a packet is known, whatever the packet looks like.

* `Installed.decide_forward`: on the way to another node it forwards over an interface that is
  joined to a node one hop closer;
* `Installed.decide_noCandidates`: without a way, or at the destination itself, it finds no candidate.
-/

namespace Multipath

variable {t : Topology} {p : AddressPlan} {d : DistanceTable} {params : Params} {hashSalt : UInt32}
variable {x dest source : NodeId} {a : Arbiter Ecmp} {packet : Packet} {header : Ipv4Header}

/-- The arbiter that belongs to the node `x`. -/
structure Installed (t : Topology) (p : AddressPlan) (d : DistanceTable) (hashSalt : UInt32)
    (x : NodeId) (a : Arbiter Ecmp) : Prop where
  node_eq : a.node = x
  topology_eq : a.topology = t
  resolver_eq : a.resolver = p.resolver
  policy_eq : a.policy = ⟨CandidateTable.row t d x, hashSalt⟩
  linkTo_iff : ∀ (y : NodeId) (l : LinkIndex),
    a.linkTo y = some l ↔ ∃ k', Joined t p.indices ⟨x, l.val⟩ ⟨y, k'⟩

/-! ### Installation -/

theorem value_installRows_cons (resolver : Resolver) (hashSalt : UInt32) (node : ℕ)
    (row : Array (List NodeId)) (rows : List (Array (List NodeId))) :
    (installRows t p resolver hashSalt node (row :: rows)).value = (do
      let links ← InterfaceMap.ofEdges t (UInt32.ofNat node) p.indices
      let others ← (installRows t p resolver hashSalt (node + 1) rows).value
      return ⟨UInt32.ofNat node, t, resolver, links, ⟨row, hashSalt⟩⟩ :: others) := by
  rw [installRows, Logged.value_bind, Arbiter.create]
  cases InterfaceMap.ofEdges t (UInt32.ofNat node) p.indices with
  | error e => rfl
  | ok links => rfl

theorem exists_installRows (resolver : Resolver) (hashSalt : UInt32) (node : ℕ)
    (rows : List (Array (List NodeId)))
    (h : ∀ i, node ≤ i → i < node + rows.length →
      ∃ links, InterfaceMap.ofEdges t (UInt32.ofNat i) p.indices = .ok links) :
    ∃ arbiters, (installRows t p resolver hashSalt node rows).value = .ok arbiters := by
  -- the number of the first row grows along the recursion, so it is generalized
  induction rows generalizing node with
  | nil => exact ⟨[], rfl⟩
  | cons row rows ih =>
      obtain ⟨links, hlinks⟩ := h node le_rfl (by simp)
      obtain ⟨others, hothers⟩ := ih (node + 1) fun i hi hlt =>
        h i (by omega) (by rw [List.length_cons]; omega)
      refine ⟨⟨UInt32.ofNat node, t, resolver, links, ⟨row, hashSalt⟩⟩ :: others, ?_⟩
      rw [value_installRows_cons, hlinks, hothers]
      rfl

/-- What an installation that went through has put at each place. -/
theorem getElem?_of_installRows {resolver : Resolver} {node : ℕ} {rows : List (Array (List NodeId))}
    {arbiters : List (Arbiter Ecmp)}
    (h : (installRows t p resolver hashSalt node rows).value = .ok arbiters) :
    arbiters.length = rows.length ∧ ∀ i row, rows[i]? = some row →
      ∃ links, InterfaceMap.ofEdges t (UInt32.ofNat (node + i)) p.indices = .ok links ∧
        arbiters[i]? = some ⟨UInt32.ofNat (node + i), t, resolver, links, ⟨row, hashSalt⟩⟩ := by
  induction rows generalizing node arbiters with
  | nil =>
      obtain rfl : [] = arbiters := Except.ok.inj h
      exact ⟨rfl, by simp⟩
  | cons row rows ih =>
      rw [value_installRows_cons] at h
      obtain ⟨links, hlinks, h⟩ := bind_eq_ok.mp h
      obtain ⟨others, hothers, h⟩ := bind_eq_ok.mp h
      obtain rfl := Except.ok.inj h
      obtain ⟨hlength, hat⟩ := ih hothers
      refine ⟨by simp [hlength], ?_⟩
      intro i row' hrow'
      cases i with
      | zero =>
          obtain rfl : row = row' := by simpa using hrow'
          exact ⟨links, hlinks, rfl⟩
      | succ i =>
          obtain ⟨links', hlinks', harbiter⟩ := hat i row' (by simpa using hrow')
          rw [show node + 1 + i = node + (i + 1) by omega] at hlinks' harbiter
          exact ⟨links', hlinks', by simpa using harbiter⟩

/-- **Whatever the plan, an installation that goes through gives every node its arbiter.** -/
theorem exists_installed_of_installEcmp {arbiters : List (Arbiter Ecmp)} (h : t.Consistent)
    (hn : t.size < 2 ^ 32) (hinstall : (installEcmp t p params).value = .ok arbiters) :
    ∃ d, d.Exact t ∧
      (CandidateTable.compute t params).value = .ok (CandidateTable.ofDistances t d) ∧
      arbiters.length = t.size ∧ ∀ x : NodeId, x.toNat < t.size →
        ∃ a, arbiters[x.toNat]? = some a ∧ Installed t p d params.hashSalt x a ∧
          ∀ y, t.graph.Adj x y → ∃ l, a.linkTo y = some l := by
  have hmax : t.numNodes ≤ params.maxNodes := by
    by_contra hlarge
    rw [installEcmp, CandidateTable.compute, if_pos (UInt64.not_le.mp hlarge)] at hinstall
    exact absurd hinstall (by simp)
  obtain ⟨d, hd, hcompute⟩ := CandidateTable.compute_total h hn hmax
  rw [installEcmp, Logged.value_bind, hcompute] at hinstall
  obtain ⟨hlength, hat⟩ := getElem?_of_installRows hinstall
  refine ⟨d, hd, hcompute, ?_, ?_⟩
  · simpa [CandidateTable.ofDistances, Topology.nodes_eq hn] using hlength
  · intro x hx
    have hrow : (CandidateTable.ofDistances t d).rows.toList[x.toNat]? =
        some (CandidateTable.row t d x) := by
      simp [CandidateTable.ofDistances, Topology.getElem?_nodes hn hx]
    obtain ⟨links, hlinks, ha⟩ := hat x.toNat _ hrow
    rw [Nat.zero_add, UInt32.ofNat_toNat] at hlinks ha
    refine ⟨_, ha, ⟨rfl, rfl, rfl, rfl, ?_⟩, ?_⟩
    · exact InterfaceMap.linkTo_iff_of_ofEdges hlinks h hx
    · exact fun y hadj => InterfaceMap.exists_linkTo_of_ofEdges hlinks h hx hadj

/-- **Every node gets its arbiter.** -/
theorem exists_installed (hp : Planned t p) (hmax : t.numNodes ≤ params.maxNodes) :
    ∃ d arbiters, d.Exact t ∧ (installEcmp t p params).value = .ok arbiters ∧
      arbiters.length = t.size ∧ ∀ x : NodeId, x.toNat < t.size →
        ∃ a, arbiters[x.toNat]? = some a ∧ Installed t p d params.hashSalt x a := by
  have hn := hp.size_lt
  obtain ⟨d, -, hcompute⟩ := CandidateTable.compute_total hp.consistent hn hmax
  obtain ⟨arbiters, harbiters⟩ : ∃ arbiters, (installRows t p p.resolver params.hashSalt 0
      (CandidateTable.ofDistances t d).rows.toList).value = .ok arbiters := by
    refine exists_installRows _ _ 0 _ ?_
    intro i _ hi
    replace hi : i < t.size := by simpa [CandidateTable.ofDistances, Topology.nodes_eq hn] using hi
    obtain ⟨links, hlinks, -⟩ := InterfaceMap.ofEdges_total (v := UInt32.ofNat i) hp.consistent
      (by rwa [UInt32.toNat_ofNat_of_lt' (hi.trans hn)]) hp.size_indices fun y k k' hj => by
        obtain ⟨link, hlink, -⟩ := hj.exists_onLink hp
        exact hlink.ne_zero
    exact ⟨links, hlinks⟩
  have hinstall : (installEcmp t p params).value = .ok arbiters := by
    rw [installEcmp, Logged.value_bind, hcompute]
    exact harbiters
  obtain ⟨d, hd, -, hlength, hat⟩ := exists_installed_of_installEcmp hp.consistent hn hinstall
  refine ⟨d, arbiters, hd, hinstall, hlength, ?_⟩
  intro x hx
  obtain ⟨a, ha, hinstalled, -⟩ := hat x hx
  exact ⟨a, ha, hinstalled⟩

/-! ### Decisions between two nodes -/

namespace Installed

/-- Outside the network nobody has a candidate. -/
theorem candidatesFor_eq_nil_of_le (ha : Installed t p d hashSalt x a) (hn : t.size < 2 ^ 32)
    (hdest : t.size ≤ dest.toNat) : a.policy.candidatesFor dest = [] := by
  rw [ha.policy_eq, Ecmp.candidatesFor, CandidateTable.row_eq, Topology.nodes_eq hn]
  simp [hdest]

theorem candidatesFor_eq (ha : Installed t p d hashSalt x a) (hn : t.size < 2 ^ 32)
    (hdest : dest.toNat < t.size) : a.policy.candidatesFor dest = candidatesOf t d x dest := by
  rw [ha.policy_eq, Ecmp.candidatesFor, CandidateTable.getElem?_row hn hdest]
  rfl

section Between

variable (ha : Installed t p d hashSalt x a) (hc : t.Consistent) (hn : t.size < 2 ^ 32)
variable (hd : d.Exact t) (hx : x.toNat < t.size)
include ha hc

theorem exists_neighbors (hx : x.toNat < t.size) : ∃ neighbors,
    a.topology.neighbors a.node = (.ok neighbors : Except (Failure ArbiterError) _) := by
  rw [ha.topology_eq, ha.node_eq]
  obtain ⟨neighbors, hneighbors, -⟩ := hc.exists_neighbors hx
  exact ⟨neighbors, hneighbors⟩

include hn hd hx

/-- **There is no candidate exactly where there is no way.** -/
theorem candidatesFor_eq_nil_iff : a.policy.candidatesFor dest = [] ↔
    dest = x ∨ t.size ≤ dest.toNat ∨ ¬ t.graph.Reachable x dest := by
  rcases Nat.lt_or_ge dest.toNat t.size with hdest | hdest
  · rw [ha.candidatesFor_eq hn hdest, candidatesOf_eq_nil_iff hc hd hx hdest,
      or_iff_right (Nat.not_le.mpr hdest)]
  · exact iff_of_true (ha.candidatesFor_eq_nil_of_le hn hdest) (Or.inr (Or.inl hdest))

theorem decideBetween_noCandidates {probe : Bool}
    (hout : dest = x ∨ t.size ≤ dest.toNat ∨ ¬ t.graph.Reachable x dest) :
    a.decideBetween source dest packet header probe =
      .error (.error (.noCandidates source dest x)) := by
  obtain ⟨neighbors, hneighbors⟩ := ha.exists_neighbors hc hx
  have hnil := (ha.candidatesFor_eq_nil_iff hc hn hd hx).mpr hout
  have hchoose := Ecmp.choose_of_nil
    (q := ⟨a.node, source, dest, neighbors, packet, header, probe⟩) hnil
  rw [Arbiter.decideBetween_eq_answer hneighbors, Arbiter.answer_of_error hchoose, ha.node_eq]
  rfl

/-- The candidate that the hash of the flow selects is the next node. -/
theorem decideBetween_forward {probe : Bool} {y : NodeId} {l : LinkIndex}
    (hdest : dest.toNat < t.size)
    (hy : (candidatesOf t d x dest)[(FlowKey.ofPacket header packet x probe hashSalt).hash.toNat %
      (candidatesOf t d x dest).length]? = some y) (hl : a.linkTo y = some l) :
    a.decideBetween source dest packet header probe = .ok (.forward (.link l)) := by
  obtain ⟨neighbors, hneighbors⟩ := ha.exists_neighbors hc hx
  have hcloser := (mem_candidatesOf hc hd hx hdest).mp (List.mem_of_getElem? hy)
  have hchoose : a.policy.choose ⟨a.node, source, dest, neighbors, packet, header, probe⟩ =
      .ok (some y) := by
    rw [Ecmp.choose_eq_ok_iff, ha.candidatesFor_eq hn hdest, Ecmp.flowHash, ha.node_eq,
      ha.policy_eq]
    exact hy
  have hhop : a.hopTo y = .ok (.link l) :=
    Arbiter.hopTo_eq_ok (ha.topology_eq ▸ hc.adj_lt_size hcloser.1) hl
  rw [Arbiter.decideBetween_eq_answer hneighbors, Arbiter.answer_of_choose hchoose hhop]
  rfl

end Between

end Installed

/-! ### Decisions -/

/-- What forwarding in a network rests on: a plan whose link addresses are all unicast, and a table
of the distances. -/
structure Deployed (t : Topology) (p : AddressPlan) (d : DistanceTable) : Prop
    extends Planned t p where
  unicast : t.edges.length ≤ AddressPlan.unicastLinks
  distances : d.Exact t

/-- The header of a packet for a link address of `dest`.  It comes from the address of some link, or
it only asks for a source address. -/
structure BetweenLinks (p : AddressPlan) (dest : NodeId) (header : Ipv4Header) : Prop where
  destination : p.IsLinkAddress dest header.destination
  source : header.source = Ipv4Header.probeSource ∨ ∃ v, p.IsLinkAddress v header.source

namespace Installed

/-- A plan leads to every neighbour. -/
theorem exists_linkTo (ha : Installed t p d hashSalt x a) (hp : Planned t p) {y : NodeId}
    (hadj : t.graph.Adj x y) : ∃ l k', a.linkTo y = some l ∧
      Joined t p.indices ⟨x, l.val⟩ ⟨y, k'⟩ := by
  obtain ⟨k, k', hj⟩ := exists_joined hp.consistent hp.size_indices hadj
  obtain ⟨link, hlink, -⟩ := hj.exists_onLink hp
  exact ⟨⟨k, hlink.ne_zero⟩, k', (ha.linkTo_iff y _).mpr ⟨k', hj⟩, hj⟩

section Decide

variable (hd : Deployed t p d) (hx : x.toNat < t.size) (ha : Installed t p d hashSalt x a)
variable (hheader : BetweenLinks p dest header)
include hd ha hheader

/-- The policy is asked about the nodes to which the addresses belong. -/
theorem exists_decide_eq (packet : Packet) : ∃ source,
    a.decide packet header = a.decideBetween source dest packet header header.isProbe ∧
      (header.isProbe = true → source = x) := by
  have hp : Planned t p := hd.toPlanned
  have hcapacity : t.edges.length ≤ 2 ^ 24 := hd.unicast.trans (by decide)
  have htarget : a.resolver.resolve header.destination = .ok dest :=
    ha.resolver_eq ▸ (hp.resolve_iff hcapacity).mpr hheader.destination
  have hsource : ∃ source, a.sourceOf header = .ok source ∧
      (header.isProbe = true → source = x) := by
    cases hprobe : header.isProbe with
    | true => exact ⟨x, ha.node_eq ▸ Arbiter.sourceOf_probe hprobe, fun _ => rfl⟩
    | false =>
        have hne : header.source ≠ Ipv4Header.probeSource := by
          simpa [Ipv4Header.isProbe] using hprobe
        obtain ⟨v, hv⟩ := hheader.source.resolve_left hne
        refine ⟨v, ?_, by simp⟩
        rw [Arbiter.sourceOf_of_not_probe hprobe, ha.resolver_eq]
        exact (hp.resolve_iff hcapacity).mpr hv
  obtain ⟨source, hsource, hsender⟩ := hsource
  exact ⟨source, Arbiter.decide_eq_decideBetween packet
    (hp.isLoopback_eq_false hheader.destination hd.unicast)
    (hp.isMulticast_eq_false hheader.destination hd.unicast) hsource htarget, hsender⟩

include hx

/-- Without a way to the destination, or at the destination itself, there is no candidate. -/
theorem decide_noCandidates (hprobe : header.isProbe = true)
    (hout : x = dest ∨ ¬ t.graph.Reachable x dest) (packet : Packet) :
    a.decide packet header = .error (.error (.noCandidates x dest x)) := by
  obtain ⟨source, hdecide, hsender⟩ := exists_decide_eq hd ha hheader packet
  obtain rfl := hsender hprobe
  rw [hdecide]
  exact ha.decideBetween_noCandidates hd.consistent hd.size_lt hd.distances hx
    (hout.imp Eq.symm Or.inr)

/-- On the way, the packet goes to a node one hop closer, whatever it looks like. -/
theorem decide_forward (hne : x ≠ dest) (hr : t.graph.Reachable x dest) (packet : Packet) :
    ∃ (y : NodeId) (l : LinkIndex) (k' : UInt32),
      a.decide packet header = .ok (.forward (.link l)) ∧ Closer t.graph dest x y ∧
        Joined t p.indices ⟨x, l.val⟩ ⟨y, k'⟩ := by
  have hdest : dest.toNat < t.size := hd.lt_of_isLinkAddress hheader.destination
  obtain ⟨source, hdecide, -⟩ := exists_decide_eq hd ha hheader packet
  -- whichever candidate the hash selects, it is a neighbour, and a link leads there
  obtain ⟨y, hy, hcloser⟩ := exists_candidate hd.consistent hd.distances hx hdest hr hne
    (FlowKey.ofPacket header packet x header.isProbe hashSalt).hash.toNat
  obtain ⟨l, k', hl, hj⟩ := ha.exists_linkTo hd.toPlanned hcloser.1
  refine ⟨y, l, k', ?_, hcloser, hj⟩
  rw [hdecide]
  exact ha.decideBetween_forward hd.consistent hd.size_lt hd.distances hx hdest hy hl

end Decide

end Installed

end Multipath
