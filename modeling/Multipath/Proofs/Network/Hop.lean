import Multipath.Proofs.Arbiter.Installed
import Multipath.Proofs.Network.Wiring
import Multipath.Proofs.Router.Forward
import Multipath.Proofs.Router.Setup

/-!
# One hop

Every node of a consistent topology gets its router (`exists_routers`).  Asked about a packet between
link addresses, the router of a node does one of three things.

* At the destination it delivers the packet (`Serves.value_input_deliver`).
* On the way it sends the packet over a link to a node one hop closer (`Serves.exists_output`,
  `Serves.exists_input`).
* Without a way it fails, since there is no candidate (`Serves.value_output_noCandidates`).
-/

namespace Multipath

variable {t : Topology} {p : AddressPlan} {d : DistanceTable} {params : Params} {hashSalt : UInt32}
variable {x dest : NodeId} {r : Router Ecmp} {packet : Packet} {header : Ipv4Header} {ip : Ipv4}

/-- The router that belongs to the node `x`. -/
structure Serves (t : Topology) (p : AddressPlan) (d : DistanceTable) (hashSalt : UInt32)
    (x : NodeId) (r : Router Ecmp) : Prop where
  exists_arbiter : ∃ a, r.arbiter = some a ∧ Installed t p d hashSalt x a
  exists_own : ∃ own, p.interfaces[x.toNat]? = some own ∧
    r.interfaces = own.map fun a => ⟨some a, true⟩

/-! ### The routers of a plan -/

/-- The addresses of a node in a plan pass the checks of its router. -/
theorem Planned.ofAddresses_eq_ok {π : Type} (hp : Planned t p) (hx : x.toNat < t.size)
    {own : Array InterfaceAddress} (hown : p.interfaces[x.toNat]? = some own) :
    Router.ofAddresses own.toList =
      (.ok ⟨own.map fun a => ⟨some a, true⟩, none⟩ : Except _ (Router π)) := by
  obtain rfl : (InterfaceAddress.loopback :: (linksAt t.numbered x).map (ownAddress x)).toArray =
      own := Option.some.inj ((hp.interfaces_eq hx).symm.trans hown)
  have hlength : (InterfaceAddress.loopback ::
      (linksAt t.numbered x).map (ownAddress x)).length < 2 ^ 32 := by
    have hdegree := (length_linksAt t x).trans_lt (Topology.length_incident_lt hp.consistent hx)
    have hn := hp.size_lt
    rw [List.length_cons, List.length_map]
    omega
  refine (Router.ofAddresses_eq_ok hlength ?_).trans (by simp)
  intro i address haddress
  have hi := (List.getElem?_eq_some_iff.mp haddress).1
  cases i with
  | zero =>
      obtain rfl : InterfaceAddress.loopback = address := by simpa using haddress
      rfl
  | succ i =>
      have hne : UInt32.ofNat (i + 1) ≠ 0 := by
        intro h0
        have hzero := congrArg UInt32.toNat h0
        rw [UInt32.toNat_ofNat_of_lt' (hi.trans hlength)] at hzero
        exact absurd hzero (by simp)
      have hprefix : address.prefixLen = InterfaceAddress.linkPrefixLen := by
        obtain ⟨link, -, rfl⟩ : ∃ link, (linksAt t.numbered x)[i]? = some link ∧
            ownAddress x link = address := by simpa using haddress
        rfl
      rw [Router.checkAddress, if_neg hne, if_pos hprefix]

/-- Local are the address of loop-back and the addresses of the node's own links. -/
theorem Planned.isLocal_iff {π : Type} (hp : Planned t p) (hx : x.toNat < t.size) {r : Router π}
    {own : Array InterfaceAddress} (hown : p.interfaces[x.toNat]? = some own)
    (hinterfaces : r.interfaces = own.map fun a => ⟨some a, true⟩) :
    r.isLocal ip = true ↔ ip = Ipv4.loopback ∨ p.IsLinkAddress x ip := by
  obtain rfl : (InterfaceAddress.loopback :: (linksAt t.numbered x).map (ownAddress x)).toArray =
      own := Option.some.inj ((hp.interfaces_eq hx).symm.trans hown)
  rw [Router.isLocal_iff hinterfaces, hp.isLinkAddress_iff hx]
  constructor
  · rintro ⟨a, ha, rfl⟩
    rcases List.mem_cons.mp (List.mem_toArray.mp ha) with rfl | hmem
    · exact Or.inl rfl
    · obtain ⟨link, hlink, rfl⟩ := List.mem_map.mp hmem
      exact Or.inr ⟨link, hlink, rfl⟩
  · rintro (rfl | ⟨link, hlink, rfl⟩)
    · exact ⟨InterfaceAddress.loopback, by simp, rfl⟩
    · exact ⟨ownAddress x link, List.mem_toArray.mpr
        (List.mem_cons_of_mem _ (List.mem_map_of_mem hlink)), rfl⟩

/-- The arbiter of a node gets the router of that node. -/
theorem Installed.exists_routerOf {a : Arbiter Ecmp} (ha : Installed t p d hashSalt x a)
    (hp : Planned t p) (hx : x.toNat < t.size) :
    ∃ r, Network.routerOf p a = .ok r ∧ Serves t p d hashSalt x r := by
  obtain ⟨own, hown⟩ : ∃ own, p.interfaces[x.toNat]? = some own := ⟨_, hp.interfaces_eq hx⟩
  refine ⟨⟨own.map fun a => ⟨some a, true⟩, some a⟩, ?_, ⟨a, rfl, ha⟩, own, hown, rfl⟩
  rw [Network.routerOf, AddressPlan.interfacesOf, ha.node_eq, Failure.read, hown]
  simp only [Except.mapError, bind, Except.bind]
  rw [hp.ofAddresses_eq_ok hx hown]
  rfl

/-- **Every node gets its router.** -/
theorem exists_routers (hp : Planned t p) (hmax : t.numNodes ≤ params.maxNodes) :
    ∃ d arbiters routers, d.Exact t ∧ (installEcmp t p params).value = .ok arbiters ∧
      arbiters.mapM (Network.routerOf p) = .ok routers ∧
      ∀ x : NodeId, x.toNat < t.size →
        ∃ r, routers[x.toNat]? = some r ∧ Serves t p d params.hashSalt x r := by
  obtain ⟨d, arbiters, hd, harbiters, hlength, hat⟩ := exists_installed hp hmax
  have hrouter : ∀ a ∈ arbiters, ∃ r, Network.routerOf p a = .ok r ∧
      ∀ x : NodeId, Installed t p d params.hashSalt x a → Serves t p d params.hashSalt x r := by
    intro a ha
    -- the arbiters stand in the order of their nodes
    obtain ⟨i, hi, rfl⟩ := List.getElem_of_mem ha
    have hlt : i < t.size := hlength ▸ hi
    have hnode : (UInt32.ofNat i).toNat = i := UInt32.toNat_ofNat_of_lt' (hlt.trans hp.size_lt)
    have hx : (UInt32.ofNat i).toNat < t.size := hnode.trans_lt hlt
    obtain ⟨a, ha, hinstalled⟩ := hat _ hx
    rw [hnode, List.getElem?_eq_getElem hi, Option.some.injEq] at ha
    obtain ⟨r, hr, hserves⟩ := hinstalled.exists_routerOf hp hx
    refine ⟨r, ha ▸ hr, ?_⟩
    intro x hinstalled'
    obtain rfl : UInt32.ofNat i = x := by
      rw [← hinstalled.node_eq, ← hinstalled'.node_eq, ha]
    exact hserves
  obtain ⟨routers, hrouters, hgood⟩ := mapM_total hrouter
  refine ⟨d, arbiters, routers, hd, harbiters, hrouters, ?_⟩
  intro x hx
  obtain ⟨a, ha, hinstalled⟩ := hat x hx
  obtain ⟨r, hr, hserves⟩ := hgood _ a ha
  exact ⟨r, hr, hserves x hinstalled⟩

/-! ### Interfaces -/

namespace Serves

section Interfaces

variable (hp : Planned t p) (hx : x.toNat < t.size) (hr : Serves t p d hashSalt x r)
include hp hx hr

theorem isLocal_iff : r.isLocal ip = true ↔ ip = Ipv4.loopback ∨ p.IsLinkAddress x ip := by
  obtain ⟨own, hown, hinterfaces⟩ := hr.exists_own
  exact hp.isLocal_iff hx hown hinterfaces

/-- The interface of a link has its address there. -/
theorem getElem?_interfaces {k : UInt32} {link : Edge × ℕ} (hlink : OnLink t ⟨x, k⟩ link) :
    r.interfaces[k.toNat]? = some ⟨some (ownAddress x link), true⟩ := by
  obtain ⟨own, hown, hinterfaces⟩ := hr.exists_own
  obtain ⟨own', hown', haddress⟩ := hp.address hlink hx
  obtain rfl : own = own' := Option.some.inj (hown.symm.trans hown')
  rw [hinterfaces, Array.getElem?_map, haddress]
  rfl

theorem isLinkAddress_sourceAddress {k : UInt32} {link : Edge × ℕ} (hlink : OnLink t ⟨x, k⟩ link) :
    p.IsLinkAddress x (r.sourceAddress k) := by
  rw [Router.sourceAddress, hr.getElem?_interfaces hp hx hlink, hp.isLinkAddress_iff hx]
  exact ⟨link, hlink.mem, rfl⟩

end Interfaces

end Serves

/-! ### Answers -/

/-- The route leads from `x` over a link to a node one hop closer to `dest`, and it gives the packet
the address of a link of `x`. -/
structure Onward (t : Topology) (p : AddressPlan) (dest x : NodeId) (route : Route) : Prop where
  exists_joined : ∃ w : LinkEnd, Joined t p.indices ⟨x, route.outIndex⟩ w ∧
    Closer t.graph dest x w.node
  source : p.IsLinkAddress x route.source

namespace Serves

section Answers

variable (hd : Deployed t p d) (hx : x.toNat < t.size) (hr : Serves t p d hashSalt x r)
variable (hheader : BetweenLinks p dest header)
include hd hx hr hheader

/-- A packet for a link address is local at the node to which the address belongs, and nowhere
else. -/
theorem isLocal_destination_iff : r.isLocal header.destination = true ↔ x = dest := by
  rw [hr.isLocal_iff hd.toPlanned hx]
  constructor
  · -- the address is not that of loop-back, and it has one owner only
    rintro (hloopback | hown)
    · exact absurd hloopback (hd.ne_loopback hheader.destination hd.unicast)
    · exact hd.owner_unique (hd.unicast.trans (by decide)) hown hheader.destination
  · rintro rfl
    exact Or.inr hheader.destination

theorem value_output_noCandidates (hprobe : header.isProbe = true)
    (hout : x = dest ∨ ¬ t.graph.Reachable x dest) (packet : Packet) :
    (r.output packet header none).value =
      .error (.decision (.error (.noCandidates x dest x))) := by
  obtain ⟨a, ha, hinstalled⟩ := hr.exists_arbiter
  rw [Router.value_output ha, hinstalled.decide_noCandidates hd hx hheader hprobe hout packet]

/-- On the way, the arbiter's decision leads onwards. -/
theorem exists_onward {a : Arbiter Ecmp} (ha : Installed t p d hashSalt x a) (hne : x ≠ dest)
    (hreach : t.graph.Reachable x dest) (packet : Packet) :
    ∃ hop, a.decide packet header = .ok (.forward hop) ∧
      Onward t p dest x (r.routeOver header.destination hop) := by
  obtain ⟨y, l, k', hdecide, hcloser, hj⟩ := ha.decide_forward hd hx hheader hne hreach packet
  obtain ⟨link, hlink, -⟩ := hj.exists_onLink hd.toPlanned
  refine ⟨_, hdecide, ⟨⟨y, k'⟩, hj, hcloser⟩, ?_⟩
  exact hr.isLinkAddress_sourceAddress hd.toPlanned hx hlink

theorem exists_output (hne : x ≠ dest) (hreach : t.graph.Reachable x dest) (packet : Packet) :
    ∃ route, (r.output packet header none).value = .ok (.ok route) ∧ Onward t p dest x route := by
  obtain ⟨a, ha, hinstalled⟩ := hr.exists_arbiter
  obtain ⟨hop, hdecide, honward⟩ := hr.exists_onward hd hx hheader hinstalled hne hreach packet
  exact ⟨_, by rw [Router.value_output ha, hdecide], honward⟩

theorem exists_input {k : UInt32} {link : Edge × ℕ} (hlink : OnLink t ⟨x, k⟩ link)
    (hne : x ≠ dest) (hreach : t.graph.Reachable x dest) (packet : Packet) :
    ∃ route, (r.input packet header k).value = .ok (.forward route) ∧ Onward t p dest x route := by
  obtain ⟨a, ha, hinstalled⟩ := hr.exists_arbiter
  obtain ⟨hop, hdecide, honward⟩ := hr.exists_onward hd hx hheader hinstalled hne hreach packet
  have hlocal : r.isLocal header.destination = false :=
    Bool.eq_false_iff.mpr fun hl => hne ((hr.isLocal_destination_iff hd hx hheader).mp hl)
  refine ⟨_, ?_, honward⟩
  rw [Router.value_input ha (hr.getElem?_interfaces hd.toPlanned hx hlink) hlocal, hdecide]

theorem value_input_deliver {k : UInt32} {link : Edge × ℕ} (hlink : OnLink t ⟨x, k⟩ link)
    (heq : x = dest) (packet : Packet) :
    (r.input packet header k).value = .ok (.deliver k) :=
  Router.value_input_of_local (hr.getElem?_interfaces hd.toPlanned hx hlink)
    ((hr.isLocal_destination_iff hd hx hheader).mpr heq)

end Answers

end Serves

end Multipath
