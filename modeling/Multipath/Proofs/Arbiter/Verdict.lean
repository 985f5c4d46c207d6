import Multipath.Proofs.Arbiter.Installed

/-!
# The verdict on a packet

What an installed arbiter says about a packet, for every packet and whatever plan it was installed
with: a plan need not be that of the topology, so its addresses may belong to nodes that do not
exist.  `Verdict` lists the possible answers, each with the conditions under which it is given, and
`decide_iff_verdict` says that an arbiter gives exactly these.  The conditions exclude one another
and leave nothing out; in particular nothing is ever sent to a node that is no neighbour.
-/

namespace Multipath

variable {t : Topology} {p : AddressPlan} {d : DistanceTable} {params : Params} {hashSalt : UInt32}
variable {c source target : NodeId} {a : Arbiter Ecmp} {packet : Packet} {header : Ipv4Header}
variable {G : SimpleGraph NodeId} {r : Except (Failure ArbiterError) Decision} {ip : Ipv4}

/-- The address belongs to no node. -/
def AddressPlan.Unowned (p : AddressPlan) (ip : Ipv4) : Prop :=
  ∀ v, p.resolver.resolve ip ≠ .ok v

/-- The destination is neither a loop-back nor a multicast address. -/
def Ipv4Header.IsUnicast (header : Ipv4Header) : Prop :=
  header.destination.isLoopback = false ∧ header.destination.isMulticast = false

/-- At the node `c`, the packet counts as coming from `source`. -/
def ComesFrom (p : AddressPlan) (c : NodeId) (header : Ipv4Header) (source : NodeId) : Prop :=
  header.isProbe = true ∧ source = c ∨
    header.isProbe = false ∧ p.resolver.resolve header.source = .ok source

/-- What is said about a packet at the node `c` of a topology with the graph `G`, under the plan `p`
and the table `table` of candidates. -/
inductive Verdict (G : SimpleGraph NodeId) (t : Topology) (p : AddressPlan) (table : CandidateTable)
    (hashSalt : UInt32) (c : NodeId) (packet : Packet) (header : Ipv4Header) :
    Except (Failure ArbiterError) Decision → Prop where
  | loopback : header.destination.isLoopback = true →
      Verdict G t p table hashSalt c packet header (.ok (.forward .loopback))
  | multicast : header.destination.isLoopback = false → header.destination.isMulticast = true →
      Verdict G t p table hashSalt c packet header
        (.error (.error (.multicast header.destination)))
  | unknownSource : header.IsUnicast → header.isProbe = false → p.Unowned header.source →
      Verdict G t p table hashSalt c packet header
        (.error (.error (.unknownAddress header.source)))
  | unknownDestination (source : NodeId) : header.IsUnicast → ComesFrom p c header source →
      p.Unowned header.destination →
      Verdict G t p table hashSalt c packet header
        (.error (.error (.unknownAddress header.destination)))
  /-- There is no way to the target, or the packet is there already. -/
  | noCandidates (source target : NodeId) : header.IsUnicast → ComesFrom p c header source →
      p.resolver.resolve header.destination = .ok target →
      target = c ∨ t.size ≤ target.toNat ∨ ¬ G.Reachable c target →
      Verdict G t p table hashSalt c packet header
        (.error (.error (.noCandidates source target c)))
  /-- The packet goes to the candidate `x`, over the interface of `c` on the edge between them. -/
  | forward (source target x : NodeId) (candidates : List NodeId) (link : LinkIndex)
      (far : UInt32) : header.IsUnicast → ComesFrom p c header source →
      p.resolver.resolve header.destination = .ok target →
      target ≠ c → target.toNat < t.size → G.Reachable c target →
      table.get c target = (.ok candidates : Except (Failure ArbiterError) _) →
      candidates[(FlowKey.ofPacket header packet c header.isProbe hashSalt).hash.toNat %
        candidates.length]? = some x →
      Joined t p.indices ⟨c, link.val⟩ ⟨x, far⟩ →
      Verdict G t p table hashSalt c packet header (.ok (.forward (.link link)))

/-! ### What is looked up -/

theorem AddressPlan.Unowned.resolve_eq (h : p.Unowned ip) :
    p.resolver.resolve ip = .error (.unknownAddress ip) :=
  Resolver.resolve_eq_error h

theorem AddressPlan.unowned_or_exists (p : AddressPlan) (ip : Ipv4) :
    p.Unowned ip ∨ ∃ v, p.resolver.resolve ip = .ok v := by
  by_cases h : ∃ v, p.resolver.resolve ip = .ok v
  · exact Or.inr h
  · exact Or.inl (not_exists.mp h)

/-- A packet comes from somewhere, or it is no probe and nobody owns its source address. -/
theorem exists_comesFrom_or (p : AddressPlan) (c : NodeId) (header : Ipv4Header) :
    (∃ source, ComesFrom p c header source) ∨ header.isProbe = false ∧ p.Unowned header.source := by
  cases hprobe : header.isProbe with
  | true => exact Or.inl ⟨c, Or.inl ⟨hprobe, rfl⟩⟩
  | false =>
      rcases p.unowned_or_exists header.source with hsource | ⟨source, hsource⟩
      · exact Or.inr ⟨rfl, hsource⟩
      · exact Or.inl ⟨source, Or.inr ⟨hprobe, hsource⟩⟩

namespace Installed

section Verdicts

variable (ha : Installed t p d hashSalt c a)
include ha

theorem sourceOf_eq_ok (h : ComesFrom p c header source) : a.sourceOf header = .ok source := by
  rcases h with ⟨hprobe, rfl⟩ | ⟨hprobe, hsource⟩
  · rw [Arbiter.sourceOf_probe hprobe, ha.node_eq]
  · rw [Arbiter.sourceOf_of_not_probe hprobe, ha.resolver_eq, hsource]

theorem resolve_eq : a.resolver.resolve ip = p.resolver.resolve ip := by
  rw [ha.resolver_eq]

variable (hc : t.Consistent) (hn : t.size < 2 ^ 32) (hd : d.Exact t) (hlt : c.toNat < t.size)
include hc hn hd hlt

/-- What a verdict says, the arbiter does. -/
theorem decide_of_verdict
    (h : Verdict t.graph t p (.ofDistances t d) hashSalt c packet header r) :
    a.decide packet header = r := by
  cases h with
  | loopback hloopback => rw [Arbiter.decide_eq_bind, if_pos hloopback]
  | multicast hloopback hmulticast =>
      rw [Arbiter.decide_eq_bind, if_neg (by simp [hloopback]), if_pos hmulticast]
  | unknownSource hunicast hprobe hsource =>
      rw [Arbiter.decide_eq_bind, hunicast.1, hunicast.2, Arbiter.sourceOf_of_not_probe hprobe,
        ha.resolve_eq, hsource.resolve_eq]
      rfl
  | unknownDestination source hunicast hsource htarget =>
      rw [Arbiter.decide_eq_bind, hunicast.1, hunicast.2, ha.sourceOf_eq_ok hsource,
        ha.resolve_eq, htarget.resolve_eq]
      rfl
  | noCandidates source target hunicast hsource htarget hout =>
      rw [Arbiter.decide_eq_decideBetween packet hunicast.1 hunicast.2 (ha.sourceOf_eq_ok hsource)
        (ha.resolve_eq.trans htarget)]
      exact ha.decideBetween_noCandidates hc hn hd hlt hout
  | forward source target x candidates link far hunicast hsource htarget hne hin hreach hget hx hj =>
      obtain rfl : candidatesOf t d c target = candidates :=
        Except.ok.inj ((CandidateTable.get_ofDistances hn hlt hin).symm.trans hget)
      rw [Arbiter.decide_eq_decideBetween packet hunicast.1 hunicast.2 (ha.sourceOf_eq_ok hsource)
        (ha.resolve_eq.trans htarget)]
      exact ha.decideBetween_forward hc hn hd hlt hin hx ((ha.linkTo_iff x link).mpr ⟨far, hj⟩)

/-- A packet between two nodes that are known goes on, or there is no candidate. -/
theorem exists_verdict_between (hlinks : ∀ y, t.graph.Adj c y → ∃ l, a.linkTo y = some l)
    (packet : Packet) (hunicast : header.IsUnicast) (hsource : ComesFrom p c header source)
    (htarget : p.resolver.resolve header.destination = .ok target) :
    ∃ r, Verdict t.graph t p (.ofDistances t d) hashSalt c packet header r := by
  by_cases hout : target = c ∨ t.size ≤ target.toNat ∨ ¬ t.graph.Reachable c target
  · exact ⟨_, .noCandidates source target hunicast hsource htarget hout⟩
  · obtain ⟨hne, hin, hreach⟩ := by simpa only [not_or, not_not, not_le] using hout
    -- the candidate that is selected is a neighbour, and a link leads there
    obtain ⟨x, hx, hcloser⟩ := exists_candidate hc hd hlt hin hreach (Ne.symm hne)
      (FlowKey.ofPacket header packet c header.isProbe hashSalt).hash.toNat
    obtain ⟨link, hlink⟩ := hlinks x hcloser.1
    obtain ⟨far, hj⟩ := (ha.linkTo_iff x link).mp hlink
    exact ⟨_, .forward source target x _ link far hunicast hsource htarget hne hin hreach
      (CandidateTable.get_ofDistances hn hlt hin) hx hj⟩

/-- About every packet there is a verdict. -/
theorem exists_verdict (hlinks : ∀ y, t.graph.Adj c y → ∃ l, a.linkTo y = some l)
    (packet : Packet) (header : Ipv4Header) :
    ∃ r, Verdict t.graph t p (.ofDistances t d) hashSalt c packet header r := by
  cases hloopback : header.destination.isLoopback with
  | true => exact ⟨_, .loopback hloopback⟩
  | false =>
      cases hmulticast : header.destination.isMulticast with
      | true => exact ⟨_, .multicast hloopback hmulticast⟩
      | false =>
          have hunicast : header.IsUnicast := ⟨hloopback, hmulticast⟩
          rcases exists_comesFrom_or p c header with ⟨source, hsource⟩ | ⟨hprobe, hsource⟩
          · rcases p.unowned_or_exists header.destination with htarget | ⟨target, htarget⟩
            · exact ⟨_, .unknownDestination source hunicast hsource htarget⟩
            · exact ha.exists_verdict_between hc hn hd hlt hlinks packet hunicast hsource htarget
          · exact ⟨_, .unknownSource hunicast hprobe hsource⟩

end Verdicts

end Installed

/-- **The decision of an installed arbiter is its verdict.**  If an installation goes through, under
whatever plan, then every node of the topology has an arbiter, and this gives the verdict on every
packet.  It never answers that there is no route, never chooses what is no neighbour or no node, and
never reads a table out of its bounds. -/
theorem decide_iff_verdict {numNodes : UInt64} {edges : List Edge} {endpoints : List NodeId}
    {arbiters : List (Arbiter Ecmp)} (h : Topology.build numNodes edges endpoints = .ok t)
    (hn : numNodes.toNat < 2 ^ 32) (hinstall : (installEcmp t p params).value = .ok arbiters) :
    ∃ table, (CandidateTable.compute t params).value = .ok table ∧
      arbiters.length = numNodes.toNat ∧
      ∀ c : NodeId, c.toNat < numNodes.toNat → ∃ a, arbiters[c.toNat]? = some a ∧
        ∀ packet header,
          (∀ r, a.decide packet header = r ↔
            Verdict (linkGraph edges) t p table params.hashSalt c packet header r) ∧
          a.decide packet header ≠ .ok .noRoute ∧
          (∀ selected node, a.decide packet header ≠ .error (.error (.notANeighbor selected node))) ∧
          (∀ selected size,
            a.decide packet header ≠ .error (.error (.nodeOutOfRange selected size))) ∧
          ∀ length index, a.decide packet header ≠ .error (.outOfBounds length index) := by
  have hc := Topology.consistent_of_build h
  have hsize := Topology.size_of_build h
  have hlt : t.size < 2 ^ 32 := hsize.trans_lt hn
  obtain ⟨d, hd, htable, hlength, hat⟩ := exists_installed_of_installEcmp hc hlt hinstall
  rw [← Topology.graph_of_build h, ← hsize]
  refine ⟨_, htable, hlength, ?_⟩
  intro c hclt
  obtain ⟨a, ha, hinstalled, hlinks⟩ := hat c hclt
  refine ⟨a, ha, ?_⟩
  intro packet header
  have hiff : ∀ r, a.decide packet header = r ↔
      Verdict t.graph t p (.ofDistances t d) params.hashSalt c packet header r := by
    intro r
    obtain ⟨r', hr'⟩ := hinstalled.exists_verdict hc hlt hd hclt hlinks packet header
    constructor
    · rintro rfl
      exact (hinstalled.decide_of_verdict hc hlt hd hclt hr').symm ▸ hr'
    · exact hinstalled.decide_of_verdict hc hlt hd hclt
  refine ⟨hiff, ?_, ?_, ?_, ?_⟩
  · intro hdecide
    cases (hiff _).mp hdecide
  · intro selected node hdecide
    cases (hiff _).mp hdecide
  · intro selected size hdecide
    cases (hiff _).mp hdecide
  · intro length index hdecide
    cases (hiff _).mp hdecide

/-- A plan that was made for another topology, whose only link joins the nodes 1 and 3.  The one
address belongs to a neighbour of node 0, the other to no node at all. -/
theorem decide_under_foreign_plan :
    ∃ t t' p arbiters a, Topology.build 3 [(0, 1)] = .ok t ∧ Topology.build 4 [(1, 3)] = .ok t' ∧
      AddressPlan.assign t' = (.ok p : Except (Failure TopologyError) _) ∧
      (3 : UInt64).toNat < 2 ^ 32 ∧ (installEcmp t p {}).value = .ok arbiters ∧
      arbiters[(0 : NodeId).toNat]? = some a ∧
      ∀ packet,
        a.decide packet (.probe (Ipv4.ofOctets 10 0 0 1) tcpProtocol) =
          .ok (.forward (.link ⟨1, by decide⟩)) ∧
        a.decide packet (.probe (Ipv4.ofOctets 10 0 0 2) tcpProtocol) =
          .error (.error (.noCandidates 0 3 0)) := by
  obtain ⟨t, t', p, arbiters, table, ht, ht', hp, hinstall, htable, hget, hnear, hfar, hedges,
      hindices⟩ :
      ∃ t t' p arbiters table, Topology.build 3 [(0, 1)] = .ok t ∧
        Topology.build 4 [(1, 3)] = .ok t' ∧
        AddressPlan.assign t' = (.ok p : Except (Failure TopologyError) _) ∧
        (installEcmp t p {}).value = .ok arbiters ∧
        (CandidateTable.compute t {}).value = .ok table ∧
        table.get 0 1 = (.ok [1] : Except (Failure ArbiterError) _) ∧
        p.resolver.resolve (Ipv4.ofOctets 10 0 0 1) = .ok 1 ∧
        p.resolver.resolve (Ipv4.ofOctets 10 0 0 2) = .ok 3 ∧
        t.edges = [(0, 1)] ∧ p.indices = #[(1, 1)] :=
    ⟨_, _, _, _, _, rfl, rfl, rfl, rfl, rfl, rfl, rfl, rfl, rfl, rfl⟩
  obtain ⟨table', htable', -, hat⟩ := decide_iff_verdict ht (by decide) hinstall
  obtain rfl : table = table' := Except.ok.inj (htable.symm.trans htable')
  obtain ⟨a, ha, hdecide⟩ := hat 0 (by decide)
  refine ⟨t, t', p, arbiters, a, ht, ht', hp, by decide, hinstall, ha, ?_⟩
  intro packet
  have hsize : t.size = 3 := Topology.size_of_build ht
  have hsource : ∀ destination, ComesFrom p 0 (.probe destination tcpProtocol) 0 :=
    fun destination => Or.inl ⟨Ipv4Header.isProbe_probe _ _, rfl⟩
  have hadj : (linkGraph [(0, 1)]).Adj 0 1 := linkGraph_adj.mpr (by decide)
  have hjoined : Joined t p.indices ⟨0, 1⟩ ⟨1, 1⟩ :=
    ⟨((0, 1), (1, 1)), by simp [hedges, hindices], Or.inl ⟨rfl, rfl⟩⟩
  constructor
  · -- there is one candidate only, so the hash does not matter
    refine ((hdecide packet _).1 _).mpr (.forward 0 1 1 [1] ⟨1, by decide⟩ 1 ⟨rfl, rfl⟩
      (hsource _) hnear (by decide) (by rw [hsize]; decide) hadj.reachable hget ?_ hjoined)
    simp [Nat.mod_one]
  · exact ((hdecide packet _).1 _).mpr (.noCandidates 0 3 ⟨rfl, rfl⟩ (hsource _) hfar
      (Or.inr (Or.inl (by rw [hsize]; decide))))

end Multipath
