import Multipath.Proofs.Distance.Stopover
import Multipath.Proofs.Network.Hop

/-!
# Walking a packet

A transmission is a computation that may fail and leaves a log.  `Sending.result` forgets the log;
it passes through the steps of a transmission (`result_bind`).

`Network.Operates` says that a network is that of a topology under its plan.  In such a network a
packet that leaves towards its destination is walked along a shortest path (`exists_walk`), and the
limit on the nodes that it may visit never stops it.
-/

namespace Multipath

/-! ### Results of transmissions -/

namespace Sending

variable {α β : Type}

/-- What a transmission yields. -/
def result (x : Sending α) : Except SendFailure α :=
  x.run.value

@[simp] theorem result_pure (a : α) : (pure a : Sending α).result = .ok a := rfl

theorem result_bind_of_ok {x : Sending α} {a : α} (h : x.result = .ok a) (f : α → Sending β) :
    (x >>= f).result = (f a).result := by
  show (ExceptT.bindCont f x.run.value).value = _
  rw [show x.run.value = .ok a from h]
  rfl

theorem result_bind_of_error {x : Sending α} {e : SendFailure} (h : x.result = .error e)
    (f : α → Sending β) : (x >>= f).result = .error e := by
  show (ExceptT.bindCont f x.run.value).value = _
  rw [show x.run.value = .error e from h]
  rfl

theorem result_ofRouter_of_ok {x : Logged (Except RouterFailure α)} {a : α} (h : x.value = .ok a) :
    (ofRouter x).result = .ok a := by
  show (Logged.value _) = _
  rw [ofRouter, ExceptT.run_mk, Logged.value_bind, h]
  rfl

theorem result_ofRouter_of_decision {x : Logged (Except RouterFailure α)}
    {e : Failure ArbiterError} (h : x.value = .error (.decision e)) :
    (ofRouter x).result = .error (.decision e) := by
  show (Logged.value _) = _
  rw [ofRouter, ExceptT.run_mk, Logged.value_bind, h]
  rfl

end Sending

/-! ### Networks in operation -/

variable {t : Topology} {p : AddressPlan} {d : DistanceTable} {hashSalt : UInt32} {net : Network}
variable {x source dest : NodeId} {packet : Packet} {header : Ipv4Header}

namespace Network

/-- The network is that of a topology, wired and addressed as its plan says.  Nothing is said about
how many packets it has sent. -/
structure Operates (t : Topology) (p : AddressPlan) (d : DistanceTable) (hashSalt : UInt32)
    (net : Network) : Prop where
  topology_eq : net.topology = t
  plan_eq : net.plan = p
  wiring_eq : net.wiring = wire t p
  exists_router : ∀ x : NodeId, x.toNat < t.size →
    ∃ r, net.routers[x.toNat]? = some r ∧ Serves t p d hashSalt x r

theorem Operates.exists_read (hnet : net.Operates t p d hashSalt) (hx : x.toNat < t.size) :
    ∃ r, (Sending.ofRead (Failure.read net.routers x.toNat)).result = .ok r ∧
      Serves t p d hashSalt x r := by
  obtain ⟨r, hr, hserves⟩ := hnet.exists_router x hx
  refine ⟨r, ?_, hserves⟩
  rw [Failure.read, hr]
  rfl

/-- **A packet on its way is walked along a shortest path to its destination.** -/
theorem Operates.exists_walk (hd : Deployed t p d) (hnet : net.Operates t p d hashSalt)
    (hheader : BetweenLinks p dest header) {left : ℕ} {route : Route}
    (hroute : Onward t p dest x route)
    (hleft : t.graph.dist x dest ≤ left) (path : List NodeId) :
    ∃ w : t.graph.Walk x dest, w.length = t.graph.dist x dest ∧
      (net.walk packet header left ⟨x, route.outIndex⟩ (path ++ [x])).result =
        .ok (path ++ w.support) := by
  induction left generalizing x route path with
  | zero =>
      -- a packet that goes onwards has a hop to go, so the limit allows another node
      obtain ⟨y, -, hcloser⟩ := hroute.exists_joined
      have hdist := hcloser.2
      omega
  | succ left ih =>
      obtain ⟨y, hj, hcloser⟩ := hroute.exists_joined
      obtain ⟨link, -, hlink⟩ := hj.exists_onLink hd.toPlanned
      have hdist := hcloser.2
      have hy : y.node.toNat < t.size := hd.consistent.adj_lt_size hcloser.1
      obtain ⟨r, hread, hserves⟩ := hnet.exists_read hy
      have hwire : net.wiring[(⟨x, route.outIndex⟩ : LinkEnd)]? = some y := by
        rw [hnet.wiring_eq]
        exact (getElem?_wire_iff hd.toPlanned).mpr hj
      rw [walk, hwire]
      simp only
      rw [Sending.result_bind_of_ok hread]
      by_cases heq : y.node = dest
      · -- the next node is the destination
        have hdeliver := hserves.value_input_deliver hd hy hheader hlink heq packet
        rw [Sending.result_bind_of_ok (Sending.result_ofRouter_of_ok hdeliver)]
        subst heq
        exact ⟨SimpleGraph.Walk.cons hcloser.1 SimpleGraph.Walk.nil, by
          rw [SimpleGraph.dist_self] at hdist; simpa using hdist, by simp⟩
      · -- the next node sends it on, and the rest of the way is known
        obtain ⟨route', hinput, honward⟩ := hserves.exists_input hd hy hheader hlink heq
          hcloser.reachable_next packet
        rw [Sending.result_bind_of_ok (Sending.result_ofRouter_of_ok hinput)]
        obtain ⟨w, hw, hresult⟩ := ih honward (by omega) (path ++ [x])
        refine ⟨SimpleGraph.Walk.cons hcloser.1 w, ?_, ?_⟩
        · rw [SimpleGraph.Walk.length_cons, hw, hdist]
        · simpa using hresult

end Network

end Multipath
