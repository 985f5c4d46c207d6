import Multipath.Proofs.Network.Hop

/-!
# Delivery without loops

A packet in transit is followed from router to router (`Transit`), and at every node it may look
different: `choice k` is what the `k`-th node sees of it.  As long as its header is one between link
addresses and goes to the same node, every step brings it one hop closer (`exists_step`), and the
destination delivers it (`step_destination`).  So it is delivered after exactly as many hops as the
distance, and never lost (`delivery_of_build`).
-/

namespace Multipath

/-- Where a packet is. -/
inductive Transit where
  /-- At a node, on whose interface `entry` it came in; `none` if the packet has yet to leave its
  source. -/
  | atNode (node : NodeId) (entry : Option UInt32)
  | delivered (node : NodeId)
  /-- A router failed or dropped the packet, or there was no router, or the packet left on an
  interface that leads nowhere. -/
  | lost
  deriving DecidableEq

namespace Transit

/-- The packet leaves on an interface. -/
def follow (wiring : Std.HashMap LinkEnd LinkEnd) (exit : LinkEnd) : Transit :=
  match wiring[exit]? with
  | some w => .atNode w.node (some w.index)
  | none => .lost

/-- What the router of a node does with the packet. -/
def handle (r : Router Ecmp) (wiring : Std.HashMap LinkEnd LinkEnd) (packet : Packet)
    (header : Ipv4Header) (node : NodeId) : Option UInt32 → Transit
  | none =>
    match (r.output packet header none).value with
    | .ok (.ok route) => follow wiring ⟨node, route.outIndex⟩
    | _ => .lost
  | some index =>
    match (r.input packet header index).value with
    | .ok (.deliver _) => .delivered node
    | .ok (.forward route) => follow wiring ⟨node, route.outIndex⟩
    | _ => .lost

/-- One node handles the packet. -/
def step (routers : List (Router Ecmp)) (wiring : Std.HashMap LinkEnd LinkEnd) (packet : Packet)
    (header : Ipv4Header) : Transit → Transit
  | .atNode node entry =>
    match routers[node.toNat]? with
    | some r => handle r wiring packet header node entry
    | none => .lost
  | .delivered node => .delivered node
  | .lost => .lost

/-- Where a packet from `source` is once `k` nodes have handled it. -/
def after (routers : List (Router Ecmp)) (wiring : Std.HashMap LinkEnd LinkEnd)
    (choice : ℕ → Packet × Ipv4Header) (source : NodeId) : ℕ → Transit
  | 0 => .atNode source none
  | k + 1 => step routers wiring (choice k).1 (choice k).2 (after routers wiring choice source k)

end Transit

variable {t : Topology} {p : AddressPlan} {d : DistanceTable} {hashSalt : UInt32}
variable {x source dest : NodeId} {entry : Option UInt32} {routers : List (Router Ecmp)}
variable {header : Ipv4Header}

/-- The packet stands at a node from which its destination can be reached, and it came in on a link
unless it has yet to leave. -/
structure OnItsWay (t : Topology) (dest x : NodeId) (entry : Option UInt32) : Prop where
  lt_size : x.toNat < t.size
  reachable : t.graph.Reachable x dest
  ne_of_none : entry = none → x ≠ dest
  onLink_of_some : ∀ k, entry = some k → ∃ link, OnLink t ⟨x, k⟩ link

/-! ### One step -/

section Step

variable (hd : Deployed t p d)
variable (hrouters : ∀ x : NodeId, x.toNat < t.size →
  ∃ r, routers[x.toNat]? = some r ∧ Serves t p d hashSalt x r)
include hd

/-- A route onwards leads to the node at the other end of the link. -/
theorem Onward.exists_follow {route : Route} (hroute : Onward t p dest x route) :
    ∃ w : LinkEnd, Transit.follow (Network.wire t p) ⟨x, route.outIndex⟩ =
        .atNode w.node (some w.index) ∧
      Closer t.graph dest x w.node ∧ OnItsWay t dest w.node (some w.index) := by
  obtain ⟨w, hj, hcloser⟩ := hroute.exists_joined
  obtain ⟨link, -, hlink⟩ := hj.exists_onLink hd.toPlanned
  have hwire : (Network.wire t p)[(⟨x, route.outIndex⟩ : LinkEnd)]? = some w :=
    (getElem?_wire_iff hd.toPlanned).mpr hj
  refine ⟨w, by rw [Transit.follow, hwire], hcloser, hd.consistent.adj_lt_size hcloser.1,
    hcloser.reachable_next, by simp, ?_⟩
  rintro k hk
  obtain rfl : w.index = k := Option.some.inj hk
  exact ⟨link, hlink⟩

include hrouters

/-- On the way, a step leads one hop closer to the destination. -/
theorem exists_step (hheader : BetweenLinks p dest header) (hway : OnItsWay t dest x entry)
    (hne : x ≠ dest) (packet : Packet) :
    ∃ w : LinkEnd, Transit.step routers (Network.wire t p) packet header (.atNode x entry) =
        .atNode w.node (some w.index) ∧
      Closer t.graph dest x w.node ∧ OnItsWay t dest w.node (some w.index) := by
  have hx := hway.lt_size
  obtain ⟨r, hr, hserves⟩ := hrouters x hx
  cases entry with
  | none =>
      obtain ⟨route, houtput, honward⟩ :=
        hserves.exists_output hd hx hheader hne hway.reachable packet
      simp only [Transit.step, hr, Transit.handle, houtput]
      exact honward.exists_follow hd
  | some k =>
      obtain ⟨link, hlink⟩ := hway.onLink_of_some k rfl
      obtain ⟨route, hinput, honward⟩ :=
        hserves.exists_input hd hx hheader hlink hne hway.reachable packet
      simp only [Transit.step, hr, Transit.handle, hinput]
      exact honward.exists_follow hd

/-- The destination delivers. -/
theorem step_destination (hheader : BetweenLinks p dest header)
    (hway : OnItsWay t dest dest entry) (packet : Packet) :
    Transit.step routers (Network.wire t p) packet header (.atNode dest entry) =
      .delivered dest := by
  have hx := hway.lt_size
  obtain ⟨r, hr, hserves⟩ := hrouters dest hx
  cases entry with
  | none =>
      -- only at the source has the packet come in nowhere, and the source is another node
      exact absurd rfl (hway.ne_of_none rfl)
  | some k =>
      obtain ⟨link, hlink⟩ := hway.onLink_of_some k rfl
      simp only [Transit.step, hr, Transit.handle,
        hserves.value_input_deliver hd hx hheader hlink rfl packet]

/-! ### All steps -/

section Run

variable {choice : ℕ → Packet × Ipv4Header}
variable (hchoice : ∀ k, BetweenLinks p dest (choice k).2)
variable (hsource : source.toNat < t.size) (hne : source ≠ dest)
variable (hreach : t.graph.Reachable source dest)
include hchoice hsource hne hreach

/-- After each hop the packet is one hop closer. -/
theorem exists_after {k : ℕ} (hk : k ≤ t.graph.dist source dest) : ∃ x entry,
    Transit.after routers (Network.wire t p) choice source k = .atNode x entry ∧
      OnItsWay t dest x entry ∧ t.graph.dist x dest + k = t.graph.dist source dest := by
  induction k with
  | zero => exact ⟨source, none, rfl, ⟨hsource, hreach, fun _ => hne, by simp⟩, rfl⟩
  | succ k ih =>
      obtain ⟨x, entry, hafter, hway, hdist⟩ := ih (by omega)
      -- the distance is not used up, so this is not the destination yet
      have hx : x ≠ dest := by
        rintro rfl
        rw [SimpleGraph.dist_self] at hdist
        omega
      obtain ⟨w, hstep, hcloser, hnext⟩ :=
        exists_step hd hrouters (hchoice k) hway hx (choice k).1
      have hdist' := hcloser.2
      refine ⟨w.node, some w.index, ?_, hnext, by omega⟩
      rw [Transit.after, hafter, hstep]

/-- Behind the last hop the packet is delivered for good. -/
theorem after_eq_delivered {k : ℕ} (hk : t.graph.dist source dest < k) :
    Transit.after routers (Network.wire t p) choice source k = .delivered dest := by
  induction k, hk using Nat.le_induction with
  | base =>
      obtain ⟨x, entry, hafter, hway, hdist⟩ :=
        exists_after hd hrouters hchoice hsource hne hreach le_rfl
      obtain rfl : x = dest := hway.reachable.dist_eq_zero_iff.mp (by omega)
      rw [Transit.after, hafter, step_destination hd hrouters (hchoice _) hway]
  | succ k hk ih => rw [Transit.after, ih, Transit.step]

end Run

end Step

/-- **Delivery without loops, whatever the packet looks like at each hop.**  In the network of a
built topology, a packet for a link address of a node that can be reached is, after `k` hops, at a
node that is `k` hops closer.  It is delivered by the destination and by no node before, so it is
never dropped and no router fails.  Nothing but the addresses matters, and these may change too. -/
theorem delivery_of_build {numNodes : UInt64} {edges : List Edge} {endpoints : List NodeId}
    {params : Params} (h : Topology.build numNodes edges endpoints = .ok t)
    (hn : numNodes.toNat < 2 ^ 32) (hm : edges.length ≤ 7667712)
    (hmax : numNodes ≤ params.maxNodes) :
    ∃ p arbiters routers,
      AddressPlan.assign t = (.ok p : Except (Failure TopologyError) AddressPlan) ∧
      (installEcmp t p params).value = .ok arbiters ∧
      arbiters.mapM (Network.routerOf p) = .ok routers ∧
      ∀ source dest : NodeId, source.toNat < numNodes.toNat → dest.toNat < numNodes.toNat →
        source ≠ dest → (linkGraph edges).Reachable source dest →
        ∀ choice : ℕ → Packet × Ipv4Header, (∀ k, BetweenLinks p dest (choice k).2) →
          (∀ k, k ≤ (linkGraph edges).dist source dest → ∃ x entry,
            Transit.after routers (Network.wire t p) choice source k = .atNode x entry ∧
              (linkGraph edges).dist x dest + k = (linkGraph edges).dist source dest) ∧
          ∀ k, (linkGraph edges).dist source dest < k →
            Transit.after routers (Network.wire t p) choice source k = .delivered dest := by
  have hc := Topology.consistent_of_build h
  have hsize := Topology.size_of_build h
  have hlt : t.size < 2 ^ 32 := hsize.trans_lt hn
  have hnum : t.numNodes = numNodes := UInt64.toNat_inj.mp hsize
  have hlinks : t.edges.length ≤ AddressPlan.unicastLinks :=
    (Topology.length_edges_of_build h).trans_le hm
  obtain ⟨p, hplan, hp⟩ := exists_planned (ε := TopologyError) hc hlt
  obtain ⟨d, arbiters, routers, hdistances, harbiters, hrouters, hserves⟩ :=
    exists_routers hp (hnum ▸ hmax)
  have hd : Deployed t p d := ⟨hp, hlinks, hdistances⟩
  rw [← Topology.graph_of_build h, ← hsize]
  refine ⟨p, arbiters, routers, hplan, harbiters, hrouters, ?_⟩
  intro source dest hsource _ hne hreach choice hchoice
  constructor
  · intro k hk
    obtain ⟨x, entry, hafter, -, hdist⟩ :=
      exists_after hd hserves hchoice hsource hne hreach hk
    exact ⟨x, entry, hafter, hdist⟩
  · intro k hk
    exact after_eq_delivered hd hserves hchoice hsource hne hreach hk

/-- Three nodes in a row; the probe from one end to the other is another one at each node. -/
theorem delivery_on_three_nodes :
    ∃ t, Topology.build 3 [(0, 1), (1, 2)] = .ok t ∧ (3 : UInt64).toNat < 2 ^ 32 ∧
      [((0 : NodeId), (1 : NodeId)), (1, 2)].length ≤ 7667712 ∧
      (3 : UInt64) ≤ ({} : Params).maxNodes ∧
      ∃ p arbiters routers,
        AddressPlan.assign t = (.ok p : Except (Failure TopologyError) AddressPlan) ∧
        (installEcmp t p {}).value = .ok arbiters ∧
        arbiters.mapM (Network.routerOf p) = .ok routers ∧
        ∀ k, (linkGraph [(0, 1), (1, 2)]).dist 0 2 < k →
          Transit.after routers (Network.wire t p)
            (fun k => (⟨UInt64.ofNat k, 0, none⟩,
              .probe (Ipv4.ofOctets 10 0 1 2) (UInt8.ofNat k))) 0 k = .delivered 2 := by
  have ht : Topology.build 3 [(0, 1), (1, 2)] [] = .ok _ := rfl
  have hmax : (3 : UInt64) ≤ ({} : Params).maxNodes := by decide
  obtain ⟨p, arbiters, routers, hplan, harbiters, hrouters, hdeliver⟩ :=
    delivery_of_build ht (by decide) (by decide) hmax
  have hfirst : (linkGraph [(0, 1), (1, 2)]).Adj 0 1 := linkGraph_adj.mpr (by decide)
  have hsecond : (linkGraph [(0, 1), (1, 2)]).Adj 1 2 := linkGraph_adj.mpr (by decide)
  refine ⟨_, ht, by decide, by decide, hmax, p, arbiters, routers, hplan, harbiters, hrouters, ?_⟩
  refine (hdeliver 0 2 (by decide) (by decide) (by decide)
    (hfirst.reachable.trans hsecond.reachable) _ fun k => ⟨?_, Or.inl rfl⟩).2
  obtain rfl := Except.ok.inj hplan
  exact ⟨_, rfl, _, List.mem_singleton_self _, rfl⟩

end Multipath
