import Multipath.Proofs.Arbiter.Verdict
import Multipath.Proofs.Network.Hop

/-!
# Local delivery and address resolution

A router finds out by looking at its own interfaces whether a packet is for its node, an arbiter by
asking the resolver of the whole plan.  On a topology with at most `2 ^ 24` links the two agree
about every address but `127.0.0.1`, which is local everywhere and belongs to nobody
(`Planned.isLocal_iff_resolve`).  So one router of the network delivers a packet for the address of
a link, and the links on which all others send it lead there (`Installed.exists_closer_of_decide`).
-/

namespace Multipath

variable {t : Topology} {p : AddressPlan} {d : DistanceTable} {hashSalt : UInt32}
variable {v w dest : NodeId} {packet : Packet} {header : Ipv4Header} {ip : Ipv4}

/-- A router treats as local the addresses that the resolver gives to its node. -/
theorem Planned.isLocal_iff_resolve {π : Type} {r : Router π} {own : Array InterfaceAddress}
    (hp : Planned t p) (hm : t.edges.length ≤ 2 ^ 24) (hv : v.toNat < t.size)
    (hown : p.interfaces[v.toNat]? = some own)
    (hinterfaces : r.interfaces = own.map fun a => ⟨some a, true⟩) (hip : ip ≠ Ipv4.loopback) :
    r.isLocal ip = true ↔ p.resolver.resolve ip = .ok v := by
  rw [hp.isLocal_iff hv hown hinterfaces, hp.resolve_iff hm, or_iff_right hip]

/-- A packet that goes out on a link gets one hop closer to the node that owns its destination. -/
theorem Installed.exists_closer_of_decide {a : Arbiter Ecmp} {hop : NextHop}
    (ha : Installed t p d hashSalt v a) (hp : Planned t p) (hd : d.Exact t) (hv : v.toNat < t.size)
    (htarget : p.resolver.resolve header.destination = .ok dest)
    (hdecide : a.decide packet header = .ok (.forward hop)) (hne : hop.index ≠ 0) :
    ∃ x far, Joined t p.indices ⟨v, hop.index⟩ ⟨x, far⟩ ∧ Closer t.graph dest v x := by
  have hlinks : ∀ y, t.graph.Adj v y → ∃ l, a.linkTo y = some l := by
    intro y hadj
    obtain ⟨l, -, hl, -⟩ := ha.exists_linkTo hp hadj
    exact ⟨l, hl⟩
  obtain ⟨r, hr⟩ :=
    ha.exists_verdict hp.consistent hp.size_lt hd hv hlinks packet header
  obtain rfl : r = .ok (.forward hop) :=
    (ha.decide_of_verdict hp.consistent hp.size_lt hd hv hr).symm.trans hdecide
  cases hr with
  | loopback hloopback => exact absurd rfl hne
  | forward _ target x candidates link far _ _ htarget' _ hin _ hget hx hj =>
      obtain rfl : dest = target := Except.ok.inj (htarget.symm.trans htarget')
      obtain rfl : candidatesOf t d v dest = candidates :=
        Except.ok.inj ((CandidateTable.get_ofDistances hp.size_lt hv hin).symm.trans hget)
      exact ⟨x, far, hj, (mem_candidatesOf hp.consistent hd hv hin).mp (List.mem_of_getElem? hx)⟩

/-- **Local delivery and address resolution agree.**  On a topology with at most `2 ^ 24` links,
every node gets a router from its addresses in the plan.  For every address but `127.0.0.1`, the
router says that it is local if and only if the resolver gives it to that node.  So in the network
a packet for the address of a link is delivered by the one router whose node owns the address, and
wherever else it goes out on a link, it gets one hop closer to that node. -/
theorem local_iff_resolved {π : Type} {numNodes : UInt64} {edges : List Edge}
    {endpoints : List NodeId} (h : Topology.build numNodes edges endpoints = .ok t)
    (hn : numNodes.toNat < 2 ^ 32) (hm : edges.length ≤ 2 ^ 24) :
    ∃ p, AddressPlan.assign t = (.ok p : Except (Failure TopologyError) AddressPlan) ∧
      (∀ v : NodeId, v.toNat < numNodes.toNat → ∃ (own : Array InterfaceAddress) (r : Router π),
        p.interfacesOf v = (.ok own : Except (Failure TopologyError) _) ∧
        Router.ofAddresses own.toList = .ok r ∧
        ∀ ip, ip ≠ Ipv4.ofOctets 127 0 0 1 →
          (r.isLocal ip = true ↔ p.resolver.resolve ip = .ok v)) ∧
      ∀ params : Params, numNodes ≤ params.maxNodes → ∃ arbiters routers,
        (installEcmp t p params).value = .ok arbiters ∧
        arbiters.mapM (Network.routerOf p) = .ok routers ∧
        ∀ w ip, p.IsLinkAddress w ip → ip ≠ Ipv4.ofOctets 127 0 0 1 →
          w.toNat < numNodes.toNat ∧ p.resolver.resolve ip = .ok w ∧
          ∀ v : NodeId, v.toNat < numNodes.toNat → ∃ r, routers[v.toNat]? = some r ∧
            ∀ packet header index, header.destination = ip → index.toNat < r.interfaces.size →
              ((r.input packet header index).value = .ok (.deliver index) ↔ v = w) ∧
              ∀ route, (r.input packet header index).value = .ok (.forward route) →
                route.outIndex ≠ 0 → ∃ x far, Joined t p.indices ⟨v, route.outIndex⟩ ⟨x, far⟩ ∧
                  Closer (linkGraph edges) w v x := by
  have hc := Topology.consistent_of_build h
  have hsize := Topology.size_of_build h
  have hnum : t.numNodes = numNodes := UInt64.toNat_inj.mp hsize
  have hlinks : t.edges.length ≤ 2 ^ 24 := (Topology.length_edges_of_build h).trans_le hm
  obtain ⟨p, hplan, hp⟩ := exists_planned (ε := TopologyError) hc (hsize.trans_lt hn)
  rw [← Topology.graph_of_build h, ← hsize]
  refine ⟨p, hplan, ?_, ?_⟩
  · intro v hv
    obtain ⟨own, hown⟩ : ∃ own, p.interfaces[v.toNat]? = some own := ⟨_, hp.interfaces_eq hv⟩
    refine ⟨own, ⟨own.map fun a => ⟨some a, true⟩, none⟩, ?_, hp.ofAddresses_eq_ok hv hown, ?_⟩
    · rw [AddressPlan.interfacesOf, Failure.read, hown]
    · exact fun ip hip => hp.isLocal_iff_resolve hlinks hv hown rfl hip
  · intro params hmax
    obtain ⟨d, arbiters, routers, hd, harbiters, hrouters, hserves⟩ :=
      exists_routers hp (hnum ▸ hmax)
    refine ⟨arbiters, routers, harbiters, hrouters, ?_⟩
    intro w ip hw hip
    have hresolve : p.resolver.resolve ip = .ok w := (hp.resolve_iff hlinks).mpr hw
    refine ⟨hp.lt_of_isLinkAddress hw, hresolve, ?_⟩
    intro v hv
    obtain ⟨r, hr, hserves⟩ := hserves v hv
    obtain ⟨own, hown, hinterfaces⟩ := hserves.exists_own
    obtain ⟨a, ha, hinstalled⟩ := hserves.exists_arbiter
    refine ⟨r, hr, ?_⟩
    rintro packet header index rfl hindex
    have hinterface := Array.getElem?_eq_getElem hindex
    have hlocal : r.isLocal header.destination = true ↔ v = w := by
      rw [hp.isLocal_iff_resolve hlinks hv hown hinterfaces hip, hresolve, Except.ok.injEq, eq_comm]
    refine ⟨(Router.value_input_eq_deliver_iff hinterface).trans hlocal, ?_⟩
    intro route hroute hout
    obtain ⟨hop, hdecide, rfl⟩ := Router.exists_decide_of_input ha hinterface hroute
    exact hinstalled.exists_closer_of_decide hp hd hv hresolve hdecide hout

/-- Three nodes in a row: of the four link addresses, the node in the middle has the two of its own
sides. -/
theorem local_in_the_middle :
    ∃ t, Topology.build 3 [(1, 2), (0, 1)] = .ok t ∧ (3 : UInt64).toNat < 2 ^ 32 ∧
      [((1 : NodeId), (2 : NodeId)), (0, 1)].length ≤ 2 ^ 24 ∧
      ∃ p own, ∃ r : Router Ecmp,
        AddressPlan.assign t = (.ok p : Except (Failure TopologyError) AddressPlan) ∧
        p.interfacesOf 1 = (.ok own : Except (Failure TopologyError) _) ∧
        Router.ofAddresses own.toList = .ok r ∧
        r.isLocal (Ipv4.ofOctets 10 0 0 1) = false ∧ r.isLocal (Ipv4.ofOctets 10 0 0 2) = true ∧
        r.isLocal (Ipv4.ofOctets 10 0 1 1) = true ∧ r.isLocal (Ipv4.ofOctets 10 0 1 2) = false := by
  obtain ⟨t, p, ht, hplan, h0, h1, h1', h2⟩ : ∃ t p,
      Topology.build 3 [(1, 2), (0, 1)] = .ok t ∧
      AddressPlan.assign t = (.ok p : Except (Failure TopologyError) AddressPlan) ∧
      p.resolver.resolve (Ipv4.ofOctets 10 0 0 1) = .ok 0 ∧
      p.resolver.resolve (Ipv4.ofOctets 10 0 0 2) = .ok 1 ∧
      p.resolver.resolve (Ipv4.ofOctets 10 0 1 1) = .ok 1 ∧
      p.resolver.resolve (Ipv4.ofOctets 10 0 1 2) = .ok 2 :=
    ⟨_, _, rfl, rfl, rfl, rfl, rfl, rfl⟩
  obtain ⟨p', hplan', hnodes, -⟩ := local_iff_resolved (π := Ecmp) ht (by decide) (by decide)
  obtain rfl : p = p' := Except.ok.inj (hplan.symm.trans hplan')
  obtain ⟨own, r, hown, hr, hlocal⟩ := hnodes 1 (by decide)
  have hother : ∀ {ip w}, ip ≠ Ipv4.ofOctets 127 0 0 1 → w ≠ 1 →
      p.resolver.resolve ip = .ok w → r.isLocal ip = false := by
    intro ip w hip hw hresolve
    rw [Bool.eq_false_iff, Ne, hlocal ip hip, hresolve, Except.ok.injEq]
    exact hw
  exact ⟨t, ht, by decide, by decide, p, own, r, hplan, hown, hr,
    hother (by decide) (by decide) h0, (hlocal _ (by decide)).mpr h1,
    (hlocal _ (by decide)).mpr h1', hother (by decide) (by decide) h2⟩

end Multipath
