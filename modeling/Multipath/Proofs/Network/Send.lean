import Multipath.Proofs.Network.Walk

/-!
# The outcome of a transmission

What `Network.send` yields is known for every network of a built topology, after any history, and for
every two endpoints (`send_of_build`): the packet arrives over a shortest path, or the sender finds
no candidate, or the destination has no link and hence no address.
-/

namespace Multipath

variable {t : Topology} {p : AddressPlan} {d : DistanceTable} {hashSalt : UInt32} {net : Network}
variable {dest y : NodeId} {packet : Packet} {header : Ipv4Header} {s : Shipment} {uid : UInt64}

/-! ### The first address of a node -/

theorem linksAt_eq_nil (h : t.Consistent) (hout : ∀ y, ¬ t.graph.Adj dest y) :
    linksAt t.numbered dest = [] := by
  rw [← List.length_eq_zero_iff, length_linksAt, List.length_eq_zero_iff,
    List.eq_nil_iff_forall_not_mem]
  intro y hy
  exact hout y ((Topology.mem_incident h).mp hy)

theorem linksAt_ne_nil (h : t.Consistent) (hy : t.graph.Adj dest y) :
    linksAt t.numbered dest ≠ [] := by
  rw [← List.length_pos_iff, length_linksAt, List.length_pos_iff]
  exact List.ne_nil_of_mem ((Topology.mem_incident h).mpr hy)

namespace Network

section Transmit

variable (hd : Deployed t p d) (hnet : net.Operates t p d hashSalt)
include hd hnet

/-- A node without links has no address that could be reached. -/
theorem result_transmit_unlinked (hdest : s.destination.toNat < t.size)
    (hout : ∀ y, ¬ t.graph.Adj s.destination y) :
    (net.transmit uid s).result = .error (.decision (.outOfBounds 1 1)) := by
  have hown := hd.interfaces_eq hdest
  rw [linksAt_eq_nil hd.consistent hout] at hown
  have hread : (Sending.ofRead (net.plan.interfacesOf s.destination)).result =
      .ok #[InterfaceAddress.loopback] := by
    rw [hnet.plan_eq, AddressPlan.interfacesOf, Failure.read, hown]
    rfl
  rw [transmit, Sending.result_bind_of_ok hread]
  exact Sending.result_bind_of_error rfl _

/-- The first address of a node with a link. -/
theorem exists_first (hdest : s.destination.toNat < t.size)
    (hy : t.graph.Adj s.destination y) : ∃ own first,
      (Sending.ofRead (net.plan.interfacesOf s.destination)).result = .ok own ∧
      (Sending.ofRead (Failure.read own 1)).result = .ok first ∧
      p.IsLinkAddress s.destination first.address := by
  have hown := hd.interfaces_eq hdest
  cases hlinks : linksAt t.numbered s.destination with
  | nil => exact absurd hlinks (linksAt_ne_nil hd.consistent hy)
  | cons link links =>
      rw [hlinks, List.map_cons] at hown
      refine ⟨(InterfaceAddress.loopback :: ownAddress s.destination link ::
        links.map (ownAddress s.destination)).toArray, _, ?_, rfl, ?_⟩
      · rw [hnet.plan_eq, AddressPlan.interfacesOf, Failure.read, hown]
        rfl
      · rw [hd.isLinkAddress_iff hdest]
        exact ⟨link, hlinks ▸ List.mem_cons_self, rfl⟩

theorem result_outputAt_noCandidates (hsource : s.source.toNat < t.size)
    (hheader : BetweenLinks p dest header) (hprobe : header.isProbe = true)
    (hout : s.source = dest ∨ ¬ t.graph.Reachable s.source dest) (packet : Packet) :
    (net.outputAt s packet header).result =
      .error (.decision (.error (.noCandidates s.source dest s.source))) := by
  obtain ⟨r, hread, hserves⟩ := hnet.exists_read hsource
  have houtput := hserves.value_output_noCandidates hd hsource hheader hprobe hout packet
  rw [outputAt, Sending.result_bind_of_ok hread]
  exact Sending.result_bind_of_error (Sending.result_ofRouter_of_decision houtput) _

theorem exists_outputAt (hsource : s.source.toNat < t.size) (hheader : BetweenLinks p dest header)
    (hne : s.source ≠ dest) (hreach : t.graph.Reachable s.source dest) (packet : Packet) :
    ∃ route, (net.outputAt s packet header).result = .ok route ∧ Onward t p dest s.source route := by
  obtain ⟨r, hread, hserves⟩ := hnet.exists_read hsource
  obtain ⟨route, houtput, honward⟩ :=
    hserves.exists_output hd hsource hheader hne hreach packet
  refine ⟨route, ?_, honward⟩
  rw [outputAt, Sending.result_bind_of_ok hread,
    Sending.result_bind_of_ok (Sending.result_ofRouter_of_ok houtput)]
  rfl

/-- The probe of the sender finds no candidate. -/
theorem result_transmit_noCandidates (hsource : s.source.toNat < t.size)
    (hdest : s.destination.toNat < t.size) (hy : t.graph.Adj s.destination y)
    (hout : s.source = s.destination ∨ ¬ t.graph.Reachable s.source s.destination) :
    (net.transmit uid s).result =
      .error (.decision (.error (.noCandidates s.source s.destination s.source))) := by
  obtain ⟨own, first, hown, hfirst, haddress⟩ := exists_first hd hnet hdest hy
  have hprobe : BetweenLinks p s.destination (.probe first.address tcpProtocol) :=
    ⟨haddress, Or.inl rfl⟩
  rw [transmit, Sending.result_bind_of_ok hown, Sending.result_bind_of_ok hfirst]
  exact Sending.result_bind_of_error (result_outputAt_noCandidates hd hnet hsource
    hprobe (Ipv4Header.isProbe_probe _ _) hout _) _

/-- **Between two nodes that are joined the packet arrives, over a shortest path.** -/
theorem exists_transmit (hsource : s.source.toNat < t.size)
    (hdest : s.destination.toNat < t.size) (hne : s.source ≠ s.destination)
    (hreach : t.graph.Reachable s.source s.destination) :
    ∃ w : t.graph.Walk s.source s.destination,
      w.length = t.graph.dist s.source s.destination ∧
        (net.transmit uid s).result = .ok w.support := by
  obtain ⟨y, hcloser⟩ := exists_closer hreach.symm hne.symm
  obtain ⟨own, first, hown, hfirst, haddress⟩ := exists_first hd hnet hdest hcloser.1
  have hprobe : BetweenLinks p s.destination (.probe first.address tcpProtocol) :=
    ⟨haddress, Or.inl rfl⟩
  obtain ⟨probe, hprobeRoute, honward⟩ :=
    exists_outputAt hd hnet hsource hprobe hne hreach ⟨uid, 0, none⟩
  -- the packet itself comes from the address that the probe was told
  have hheader : BetweenLinks p s.destination
      { source := probe.source, destination := first.address, protocol := tcpProtocol } :=
    ⟨haddress, Or.inr ⟨s.source, honward.source⟩⟩
  obtain ⟨route, hroute, honward'⟩ := exists_outputAt hd hnet hsource hheader hne hreach
    ⟨uid, s.payloadSize, some (.tcp s.sourcePort s.destinationPort)⟩
  have hlt : t.graph.dist s.source s.destination < t.size :=
    dist_lt_of_reachable (fun _ _ => hd.consistent.adj_lt_size) hsource hreach
  obtain ⟨w, hw, hresult⟩ := hnet.exists_walk hd hheader honward'
    (Nat.le_sub_one_of_lt hlt) []
  refine ⟨w, hw, ?_⟩
  rw [transmit, Sending.result_bind_of_ok hown, Sending.result_bind_of_ok hfirst,
    Sending.result_bind_of_ok hprobeRoute, Sending.result_bind_of_ok hroute, hnet.topology_eq]
  exact hresult

end Transmit

/-! ### The history of a network -/

/-- The network after some packets have been sent, successfully or not. -/
def afterSends (net : Network) (shipments : List Shipment) : Network :=
  shipments.foldl (fun net s => (net.send s).1) net

theorem send_of_not_source (hs : net.topology.isEndpoint s.source = false) :
    net.send s = (net, pure (.error (.invalidEndpoint s.source))) := by
  rw [send, if_pos (by simp [hs])]

theorem send_of_not_destination (hs : net.topology.isEndpoint s.source = true)
    (hdest : net.topology.isEndpoint s.destination = false) :
    net.send s = (net, pure (.error (.invalidEndpoint s.destination))) := by
  rw [send, if_neg (by simp [hs]), if_pos (by simp [hdest])]

theorem send_of_endpoints (hs : net.topology.isEndpoint s.source = true)
    (hdest : net.topology.isEndpoint s.destination = true) :
    net.send s = ({ net with sent := net.sent + 1 }, (net.transmit (net.sent + 1) s).run) := by
  rw [send, if_neg (by simp [hs]), if_neg (by simp [hdest])]

/-- Sending changes nothing but the number of packets sent, which grows by at most one. -/
theorem fst_send_eq (net : Network) (s : Shipment) :
    (net.send s).1 = net ∨ (net.send s).1 = { net with sent := net.sent + 1 } := by
  cases hs : net.topology.isEndpoint s.source with
  | false => exact Or.inl (by rw [send_of_not_source hs])
  | true =>
      cases hdest : net.topology.isEndpoint s.destination with
      | false => exact Or.inl (by rw [send_of_not_destination hs hdest])
      | true => exact Or.inr (by rw [send_of_endpoints hs hdest])

theorem toNat_add_one_le (k : UInt64) : (k + 1).toNat ≤ k.toNat + 1 := by
  rw [UInt64.toNat_add]
  exact Nat.mod_le _ _

/-- What holds of a network holds of it after any history. -/
theorem operates_afterSends (hnet : net.Operates t p d hashSalt) (shipments : List Shipment) :
    (net.afterSends shipments).Operates t p d hashSalt ∧
      (net.afterSends shipments).sent.toNat ≤ net.sent.toNat + shipments.length := by
  refine foldl_invariant (fun done (now : Network) => now.Operates t p d hashSalt ∧
    now.sent.toNat ≤ net.sent.toNat + done.length) ⟨hnet, le_rfl⟩ ?_
  rintro done s now - ⟨hnow, hsent⟩
  rw [List.length_append, List.length_singleton]
  rcases now.fst_send_eq s with heq | heq
  · -- a refused packet leaves no trace
    rw [heq]
    exact ⟨hnow, by omega⟩
  · rw [heq]
    have hle := toNat_add_one_le now.sent
    exact ⟨⟨hnow.topology_eq, hnow.plan_eq, hnow.wiring_eq, hnow.exists_router⟩, by
      simp only
      omega⟩

/-- The network of a consistent topology, which may have any number of links. -/
theorem exists_operating (h : t.Consistent) (hn : t.size < 2 ^ 32)
    (hmax : t.numNodes ≤ ({} : Params).maxNodes) :
    ∃ net p d, build t = .ok net ∧ net.sent = 0 ∧ Planned t p ∧ d.Exact t ∧
      net.Operates t p d ({} : Params).hashSalt := by
  obtain ⟨p, hplan, hp⟩ := exists_planned (ε := TopologyError) h hn
  obtain ⟨d, arbiters, routers, hd, harbiters, hrouters, hserves⟩ := exists_routers hp hmax
  refine ⟨⟨t, p, routers.toArray, wire t p, 0⟩, p, d, ?_, rfl, hp, hd, rfl, rfl, rfl, ?_⟩
  · rw [build, hplan]
    simp only [Except.mapError, bind, Except.bind]
    rw [harbiters]
    simp only
    rw [hrouters]
    rfl
  · intro x hx
    obtain ⟨r, hr, hserve⟩ := hserves x hx
    exact ⟨r, by simpa using hr, hserve⟩

/-- The network of a consistent topology whose link addresses are all unicast. -/
theorem exists_build (h : t.Consistent) (hn : t.size < 2 ^ 32)
    (hmax : t.numNodes ≤ ({} : Params).maxNodes)
    (hm : t.edges.length ≤ AddressPlan.unicastLinks) :
    ∃ net p d, build t = .ok net ∧ net.sent = 0 ∧ Deployed t p d ∧
      net.Operates t p d ({} : Params).hashSalt := by
  obtain ⟨net, p, d, hbuild, hzero, hp, hd, hoperates⟩ := exists_operating h hn hmax
  exact ⟨net, p, d, hbuild, hzero, ⟨hp, hm, hd⟩, hoperates⟩

/-- A transmission fails for the reason `e`, and `text` is what is said about it. -/
structure FailsWith (outcome : Except SendFailure (List NodeId)) (e : SendFailure)
    (text : String) : Prop where
  outcome_eq : outcome = .error e
  message_eq : e.message = text

/-- What is said if a source finds no candidate. -/
def noPathText (source destination : ℕ) : String :=
  s!"ECMP has no candidates at node {source} for source {source} and target {destination}, " ++
    "no path exists between them."

/-- **The outcome of a transmission.**  Whatever a network has sent before, a packet whose source or
destination is no endpoint is refused, and is not counted.  Otherwise it is counted, and one of three
things happens: the destination has no link and so no second interface, or the sender finds no
candidate because it is the destination or cannot reach it, or the packet arrives over a shortest
path.  Each of these failures has its own text.  Nothing else can happen, be it a loop, a loss, an
interface that leads nowhere or any other failure. -/
theorem send_of_build {numNodes : UInt64} {edges : List Edge} {endpoints : List NodeId}
    (h : Topology.build numNodes edges endpoints = .ok t) (hn : numNodes.toNat ≤ 40000)
    (hm : edges.length ≤ 7667712) :
    ∃ start, build t = .ok start ∧
      ∀ earlier : List Shipment, earlier.length < 2 ^ 64 - 1 →
      ∀ net, start.afterSends earlier = net → ∀ s : Shipment,
        (t.isEndpoint s.source = false →
          (net.send s).1 = net ∧
          FailsWith (net.send s).2.value (.invalidEndpoint s.source)
            s!"{s.source.toNat} is not a valid endpoint") ∧
        (t.isEndpoint s.source = true → t.isEndpoint s.destination = false →
          (net.send s).1 = net ∧
          FailsWith (net.send s).2.value (.invalidEndpoint s.destination)
            s!"{s.destination.toNat} is not a valid endpoint") ∧
        (t.isEndpoint s.source = true → t.isEndpoint s.destination = true →
          (net.send s).1 = { net with sent := net.sent + 1 } ∧
          (net.sent + 1).toNat = net.sent.toNat + 1 ∧
          ((∀ y, ¬ (linkGraph edges).Adj s.destination y) →
            FailsWith (net.send s).2.value (.decision (.outOfBounds 1 1))
              "index out of bounds: the len is 1 but the index is 1") ∧
          (∀ y, (linkGraph edges).Adj s.destination y →
            s.source = s.destination ∨ ¬ (linkGraph edges).Reachable s.source s.destination →
            FailsWith (net.send s).2.value
              (.decision (.error (.noCandidates s.source s.destination s.source)))
              (noPathText s.source.toNat s.destination.toNat)) ∧
          (s.source ≠ s.destination → (linkGraph edges).Reachable s.source s.destination →
            ∃ w : (linkGraph edges).Walk s.source s.destination,
              w.length = (linkGraph edges).dist s.source s.destination ∧
              (net.send s).2.value = .ok w.support)) := by
  have hc := Topology.consistent_of_build h
  have hsize := Topology.size_of_build h
  have hlt : t.size < 2 ^ 32 := by omega
  have hmax : t.numNodes ≤ ({} : Params).maxNodes := UInt64.le_iff_toNat_le.mpr (hsize.trans_le hn)
  have hlinks : t.edges.length ≤ AddressPlan.unicastLinks :=
    (Topology.length_edges_of_build h).trans_le hm
  obtain ⟨start, p, d, hstart, hzero, hd, hoperates⟩ := exists_build hc hlt hmax hlinks
  rw [← Topology.graph_of_build h]
  refine ⟨start, hstart, ?_⟩
  rintro earlier hearlier net rfl s
  -- whatever was sent before, the network is still the one that was built
  obtain ⟨hnet, hsent⟩ := operates_afterSends hoperates earlier
  rw [hzero, UInt64.toNat_zero, Nat.zero_add] at hsent
  rw [← hnet.topology_eq]
  refine ⟨?_, ?_, ?_⟩
  · intro hs
    rw [send_of_not_source hs]
    exact ⟨rfl, rfl, rfl⟩
  · intro hs hdest
    rw [send_of_not_destination hs hdest]
    exact ⟨rfl, rfl, rfl⟩
  · intro hs hdest
    rw [send_of_endpoints hs hdest]
    rw [hnet.topology_eq] at hs hdest ⊢
    have hsource := hc.isEndpoint_lt hs
    have hdest := hc.isEndpoint_lt hdest
    refine ⟨rfl, ?_, ?_, ?_, ?_⟩
    · -- the counter has not been used up: it is at most the number of earlier packets
      rw [UInt64.toNat_add, UInt64.toNat_one, Nat.mod_eq_of_lt (by omega)]
    · intro hout
      exact ⟨result_transmit_unlinked hd hnet hdest hout, rfl⟩
    · intro y hy hout
      exact ⟨result_transmit_noCandidates hd hnet hsource hdest hy hout, rfl⟩
    · intro hne hreach
      exact exists_transmit hd hnet hsource hdest hne hreach

/-- Two joined nodes and one beside them.  There is no node 3. -/
theorem send_beside_one_link :
    ∃ t start, Topology.build 3 [(0, 1)] = .ok t ∧ (3 : UInt64).toNat ≤ 40000 ∧
      [((0 : NodeId), (1 : NodeId))].length ≤ 7667712 ∧ build t = .ok start ∧
      ∀ sourcePort destinationPort payloadSize,
        FailsWith (start.send ⟨0, 3, sourcePort, destinationPort, payloadSize⟩).2.value
          (.invalidEndpoint 3) s!"{3} is not a valid endpoint" ∧
        FailsWith (start.send ⟨0, 2, sourcePort, destinationPort, payloadSize⟩).2.value
          (.decision (.outOfBounds 1 1)) "index out of bounds: the len is 1 but the index is 1" ∧
        FailsWith (start.send ⟨2, 1, sourcePort, destinationPort, payloadSize⟩).2.value
          (.decision (.error (.noCandidates 2 1 2))) (noPathText 2 1) ∧
        ∃ w : (linkGraph [(0, 1)]).Walk 0 1, w.length = (linkGraph [(0, 1)]).dist 0 1 ∧
          (start.send ⟨0, 1, sourcePort, destinationPort, payloadSize⟩).2.value =
            .ok w.support := by
  have ht : Topology.build 3 [(0, 1)] [] = .ok _ := rfl
  obtain ⟨start, hstart, hsend⟩ := send_of_build ht (by decide) (by decide)
  have hadj : (linkGraph [(0, 1)]).Adj 0 1 := linkGraph_adj.mpr (by decide)
  have hout : ∀ y, ¬ (linkGraph [(0, 1)]).Adj 2 y := by
    intro y hy
    rcases (linkGraph_adj.mp hy).2 with hmem | hmem
    · exact absurd (Prod.mk.inj (List.mem_singleton.mp hmem)).1 (by decide)
    · exact absurd (Prod.mk.inj (List.mem_singleton.mp hmem)).2 (by decide)
  have hunreachable : ¬ (linkGraph [(0, 1)]).Reachable 2 1 := by
    intro hreach
    obtain ⟨y, hcloser⟩ := exists_closer hreach (by decide)
    exact hout y hcloser.1
  refine ⟨_, start, ht, by decide, by decide, hstart, ?_⟩
  intro sourcePort destinationPort size
  have hat := hsend [] (by decide) start rfl
  have hne : (0 : NodeId) ≠ 1 := by decide
  refine ⟨?_, ?_, ?_, ?_⟩
  · exact ((hat ⟨0, 3, _, _, _⟩).2.1 rfl rfl).2
  · exact ((hat ⟨0, 2, _, _, _⟩).2.2 rfl rfl).2.2.1 hout
  · exact ((hat ⟨2, 1, _, _, _⟩).2.2 rfl rfl).2.2.2.1 0 hadj.symm (Or.inr hunreachable)
  · exact ((hat ⟨0, 1, _, _, _⟩).2.2 rfl rfl).2.2.2.2 hne hadj.reachable

end Network

end Multipath
