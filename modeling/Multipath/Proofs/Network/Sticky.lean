import Multipath.Proofs.Arbiter.FlowOnly
import Multipath.Proofs.Network.Send
import Multipath.Proofs.Topology.Canonical

/-!
# Flows stick to their paths

What becomes of a packet depends on the network and on the flow of the packet, and on nothing else:
not on its identifier, hence not on how many packets were sent before it, and not on its size
(`Network.value_send_congr`).  The argument follows the layers.  A decision sees only the flow, so two
packets with the same ports get the same answers from every router, are walked alike and end alike.

Since a network is determined by its links and endpoints as sets, neither the history nor the way in
which the links were written down has an influence on where a flow goes (`Network.send_sticks`).
-/

namespace Multipath

variable {packet packet' : Packet}

/-! ### Routers -/

theorem effectivePorts_congr (h : packet.transport = packet'.transport) (header : Ipv4Header)
    (probe : Bool) : effectivePorts header packet probe = effectivePorts header packet' probe := by
  rw [effectivePorts, effectivePorts, Packet.ports?, Packet.ports?, h]

namespace Router

variable (r : Router Ecmp) (h : packet.transport = packet'.transport) (header : Ipv4Header)
include h

/-- What a router says about a packet does not depend on its identifier and its size. -/
theorem value_lookup_congr (requested : Option UInt32) :
    (r.lookup packet header requested).value = (r.lookup packet' header requested).value := by
  unfold lookup
  cases r.arbiter with
  | none => rfl
  | some a =>
      have hdecide : a.decide packet header = a.decide packet' header :=
        Arbiter.decide_congr rfl rfl rfl (effectivePorts_congr h header _)
      simp only
      split
      · rfl
      · simp only [Logged.value_bind, Arbiter.value_decideLogged, hdecide]

theorem value_output_congr (requested : Option UInt32) :
    (r.output packet header requested).value = (r.output packet' header requested).value := by
  have hlookup := r.value_lookup_congr h header requested
  rw [output, output, Logged.value_bind, Logged.value_bind, hlookup]

theorem value_input_congr (index : UInt32) :
    (r.input packet header index).value = (r.input packet' header index).value := by
  have hlookup := r.value_lookup_congr h header none
  unfold input
  cases r.interface index with
  | error e => rfl
  | ok x =>
      simp only
      split
      · rfl
      · -- a lost packet is reported under its identifier, but it is lost all the same
        simp only [Logged.value_bind, hlookup]
        rcases (r.lookup packet' header none).value with e | route | route <;> rfl

end Router

/-! ### Transmissions -/

namespace Sending

variable {α β : Type}

theorem result_bind_congr {x y : Sending α} {f g : α → Sending β} (h : x.result = y.result)
    (hfg : ∀ a, (f a).result = (g a).result) : (x >>= f).result = (y >>= g).result := by
  cases hx : x.result with
  | error e => rw [result_bind_of_error hx, result_bind_of_error (h ▸ hx)]
  | ok a => rw [result_bind_of_ok hx, result_bind_of_ok (h ▸ hx), hfg]

theorem result_ofRouter_congr {x y : Logged (Except RouterFailure α)} (h : x.value = y.value) :
    (ofRouter x).result = (ofRouter y).result := by
  show Logged.value _ = Logged.value _
  rw [ofRouter, ofRouter, ExceptT.run_mk, ExceptT.run_mk, Logged.value_bind, Logged.value_bind, h]

end Sending

namespace Network

variable (net : Network) (k : UInt64)

theorem result_outputAt_congr (s : Shipment) (size : UInt32)
    (h : packet.transport = packet'.transport) (header : Ipv4Header) :
    (net.outputAt s packet header).result =
      (outputAt { net with sent := k } { s with payloadSize := size } packet' header).result := by
  refine Sending.result_bind_congr rfl fun router => ?_
  exact Sending.result_bind_congr
    (Sending.result_ofRouter_congr (router.value_output_congr h header none)) fun route => rfl

/-- Two packets that every router treats alike are walked alike. -/
theorem result_walk_congr (h : packet.transport = packet'.transport) (header : Ipv4Header)
    (left : ℕ) (exit : LinkEnd) (path : List NodeId) :
    (net.walk packet header left exit path).result =
      (walk { net with sent := k } packet' header left exit path).result := by
  induction left generalizing exit path with
  | zero =>
      unfold walk
      rfl
  | succ left ih =>
      unfold walk
      cases net.wiring[exit]? with
      | none => rfl
      | some entry =>
          refine Sending.result_bind_congr rfl fun router => ?_
          refine Sending.result_bind_congr
            (Sending.result_ofRouter_congr (router.value_input_congr h header _)) fun action => ?_
          cases action with
          | deliver index => rfl
          | forward route => exact ih _ _
          | drop => rfl

theorem result_transmit_congr (s : Shipment) (uid uid' : UInt64) (size : UInt32) :
    (net.transmit uid s).result =
      (transmit { net with sent := k } uid' { s with payloadSize := size }).result := by
  refine Sending.result_bind_congr rfl fun own => ?_
  refine Sending.result_bind_congr rfl fun first => ?_
  refine Sending.result_bind_congr (net.result_outputAt_congr k s size (by rfl) _) fun probe => ?_
  refine Sending.result_bind_congr (net.result_outputAt_congr k s size (by rfl) _) fun route => ?_
  exact net.result_walk_congr k (by rfl) _ _ _ _

/-- Neither the number of packets sent before nor the size of a packet matters. -/
theorem value_send_congr (s : Shipment) (size : UInt32) :
    (net.send s).2.value = (send { net with sent := k } { s with payloadSize := size }).2.value := by
  unfold send
  split
  · rfl
  · split
    · rfl
    · exact net.result_transmit_congr k s (net.sent + 1) (k + 1) size

/-! ### Histories -/

/-- Sending changes nothing but the number of packets sent. -/
theorem exists_afterSends_eq (shipments : List Shipment) :
    ∃ k, net.afterSends shipments = { net with sent := k } := by
  refine foldl_invariant (fun _ now => ∃ k, now = { net with sent := k }) ⟨net.sent, rfl⟩ ?_
  rintro done s now - ⟨k, rfl⟩
  rcases fst_send_eq { net with sent := k } s with heq | heq
  · exact ⟨k, heq⟩
  · exact ⟨k + 1, heq⟩

/-- **A flow sticks to its path.**  Let two networks have the same links and endpoints, in whatever
order and direction these were written down, and let each have sent any packets before, but not so
many that its counter runs over.  Then packets of one flow, whatever their sizes, take the same path
in both or fail in both for the same reason, hence with the same text. -/
theorem send_sticks {numNodes : UInt64} {edges edges' : List Edge}
    {endpoints endpoints' : List NodeId} {t t' : Topology}
    (h : Topology.build numNodes edges endpoints = .ok t)
    (h' : Topology.build numNodes edges' endpoints' = .ok t') (hn : numNodes.toNat ≤ 40000)
    (hlinks : SameLinks edges edges') (hends : ∀ v, v ∈ endpoints ↔ v ∈ endpoints') :
    ∃ start start', build t = .ok start ∧ build t' = .ok start' ∧
      ∀ earlier earlier' : List Shipment,
        earlier.length < 2 ^ 64 - 1 → earlier'.length < 2 ^ 64 - 1 →
        ∀ now now', start.afterSends earlier = now → start'.afterSends earlier' = now' →
          (now.sent + 1).toNat = now.sent.toNat + 1 ∧
          (now'.sent + 1).toNat = now'.sent.toNat + 1 ∧
          ∀ s payloadSize,
            (now.send s).2.value = (now'.send { s with payloadSize := payloadSize }).2.value := by
  obtain rfl : t = t' :=
    Topology.eq_of_build h h' (fun _ => hlinks.perm_normalize.mem_iff) hends
  have hsize := Topology.size_of_build h
  have hmax : t.numNodes ≤ ({} : Params).maxNodes := UInt64.le_iff_toNat_le.mpr (hsize.trans_le hn)
  obtain ⟨start, p, d, hstart, hzero, -, -, hoperates⟩ :=
    exists_operating (Topology.consistent_of_build h) (by omega) hmax
  have hcounter : ∀ earlier : List Shipment, earlier.length < 2 ^ 64 - 1 →
      ((start.afterSends earlier).sent + 1).toNat = (start.afterSends earlier).sent.toNat + 1 := by
    intro earlier hearlier
    have hsent := (operates_afterSends hoperates earlier).2
    rw [hzero, UInt64.toNat_zero, Nat.zero_add] at hsent
    rw [UInt64.toNat_add, UInt64.toNat_one, Nat.mod_eq_of_lt (by omega)]
  refine ⟨start, start, hstart, hstart, ?_⟩
  rintro earlier earlier' hearlier hearlier' now now' rfl rfl
  refine ⟨hcounter earlier hearlier, hcounter earlier' hearlier', ?_⟩
  intro s payloadSize
  obtain ⟨k, hk⟩ := start.exists_afterSends_eq earlier
  obtain ⟨k', hk'⟩ := start.exists_afterSends_eq earlier'
  rw [hk, hk']
  exact value_send_congr { start with sent := k } k' s payloadSize

/-- A square written down in two ways.  Between opposite corners there are two shortest paths, and the
packets of a flow take the same one in both networks, also when only one has sent packets before. -/
theorem send_sticks_on_square :
    ∃ t t' start start', Topology.build 4 [(0, 1), (0, 2), (1, 3), (2, 3)] [0, 3] = .ok t ∧
      Topology.build 4 [(3, 2), (1, 3), (0, 1), (2, 0)] [3, 0, 3] = .ok t' ∧
      (4 : UInt64).toNat ≤ 40000 ∧
      SameLinks [(0, 1), (0, 2), (1, 3), (2, 3)] [(3, 2), (1, 3), (0, 1), (2, 0)] ∧
      (∀ v : NodeId, v ∈ [0, 3] ↔ v ∈ [3, 0, 3]) ∧
      build t = .ok start ∧ build t' = .ok start' ∧
      ∀ sourcePort destinationPort size size',
        ((start.afterSends [⟨3, 0, 80, 80, 9⟩, ⟨1, 0, 80, 80, 9⟩]).send
          ⟨0, 3, sourcePort, destinationPort, size⟩).2.value =
        (start'.send ⟨0, 3, sourcePort, destinationPort, size'⟩).2.value := by
  have hlinks : SameLinks [(0, 1), (0, 2), (1, 3), (2, 3)] [(3, 2), (1, 3), (0, 1), (2, 0)] :=
    ⟨[(0, 1), (2, 0), (1, 3), (3, 2)], by simp, by decide⟩
  have hends : ∀ v : NodeId, v ∈ [0, 3] ↔ v ∈ [3, 0, 3] := by
    intro v
    simp only [List.mem_cons, List.not_mem_nil]
    tauto
  have ht : Topology.build 4 [(0, 1), (0, 2), (1, 3), (2, 3)] [0, 3] = .ok _ := rfl
  have ht' : Topology.build 4 [(3, 2), (1, 3), (0, 1), (2, 0)] [3, 0, 3] = .ok _ := rfl
  obtain ⟨start, start', hstart, hstart', hsend⟩ :=
    send_sticks ht ht' (by decide) hlinks hends
  refine ⟨_, _, start, start', ht, ht', by decide, hlinks, hends, hstart, hstart', ?_⟩
  intro sourcePort destinationPort size size'
  exact (hsend [⟨3, 0, 80, 80, 9⟩, ⟨1, 0, 80, 80, 9⟩] [] (by decide) (by decide) _ _ rfl rfl).2.2
    ⟨0, 3, sourcePort, destinationPort, size⟩ size'

end Network

end Multipath
