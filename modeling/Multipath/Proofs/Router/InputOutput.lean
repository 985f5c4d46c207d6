import Multipath.Arbiter.Static
import Multipath.Proofs.Json.DottedText
import Multipath.Proofs.Router.Forward
import Multipath.Proofs.Router.History
import Multipath.Topology.Build

/-!
# Packets that come in and packets that originate

A router handles a packet that came in as it would handle the same packet if it originated here
(`value_input_eq_map_output`), apart from what is for this node.  Whichever way a packet takes into
the router, its route is what the arbiter's hop amounts to in the present state of the interfaces
(`Router.Gives`): the arbiter neither knows nor cares which interfaces there are, so the interface
may be missing or without an address.
-/

namespace Multipath

/-! ### Addresses in `127.0.0.0/8` -/

namespace Ipv4

variable {ip : Ipv4}

theorem isLoopback_ofOctets {a b c d : UInt8} : (ofOctets a b c d).isLoopback = true ↔ a = 127 := by
  have hb := b.toNat_lt
  have hc := c.toNat_lt
  have hd := d.toNat_lt
  rw [isLoopback, ofOctets, beq_iff_eq, ← UInt32.toNat_inj, UInt32.toNat_shiftRight,
    toNat_ofBigEndian32, Nat.shiftRight_eq_div_pow, ← UInt8.toNat_inj]
  simp only [UInt32.reduceToNat, UInt8.reduceToNat, Nat.reduceMod]
  omega

theorem isLoopback_iff : ip.isLoopback = true ↔ ∃ b c d, ip = ofOctets 127 b c d := by
  constructor
  · intro h
    obtain ⟨a, b, c, d, rfl⟩ := exists_ofOctets ip
    obtain rfl := isLoopback_ofOctets.mp h
    exact ⟨b, c, d, rfl⟩
  · rintro ⟨b, c, d, rfl⟩
    exact isLoopback_ofOctets.mpr rfl

end Ipv4

/-! ### The hop of a decision -/

namespace Arbiter

variable {π : Type} [Policy π] {a : Arbiter π} {packet : Packet} {header : Ipv4Header} {q : Query}
variable {hop : NextHop}

/-- What a policy chooses is on a link. -/
theorem exists_link_of_answer (h : a.answer q = .ok (.forward hop)) : ∃ link, hop = .link link := by
  obtain ⟨choice, -, h⟩ := bind_eq_ok.mp h
  cases choice with
  | none => exact absurd (Except.ok.inj h) (by simp)
  | some selected =>
      obtain ⟨hop', hhop, h⟩ := bind_eq_ok.mp h
      obtain rfl : hop' = hop := Decision.forward.inj (Except.ok.inj h)
      unfold hopTo at hhop
      split at hhop
      · exact absurd hhop (by simp)
      · split at hhop
        · next link _ => exact ⟨link, (Except.ok.inj hhop).symm⟩
        · exact absurd hhop (by simp)

/-- A packet stays on its node if and only if its destination is a loop-back address. -/
theorem hop_of_decide (h : a.decide packet header = .ok (.forward hop)) :
    hop.gateway = Ipv4.unspecified ∧
      (hop.index = 0 ↔ header.destination.isLoopback = true) := by
  rw [decide_eq_bind] at h
  split_ifs at h with hloopback hmulticast
  · obtain rfl : NextHop.loopback = hop := Decision.forward.inj (Except.ok.inj h)
    simp [hloopback, NextHop.loopback, NextHop.index, Egress.index]
  · obtain ⟨source, -, h⟩ := bind_eq_ok.mp h
    obtain ⟨target, -, h⟩ := bind_eq_ok.mp h
    obtain ⟨query, -, h⟩ := bind_eq_ok.mp h
    obtain ⟨link, rfl⟩ := exists_link_of_answer (Failure.lift_eq_ok_iff.mp h)
    simp [hloopback, NextHop.link, NextHop.index, Egress.index, link.ne_zero]

end Arbiter

namespace Router

variable {π : Type} {r : Router π} {packet : Packet} {header : Ipv4Header} {index : UInt32}
variable {requested : Option UInt32} {route : Route} {ip : Ipv4}

/-- The router gives a packet to `destination` this route. -/
structure Gives (r : Router π) (destination : Ipv4) (route : Route) : Prop where
  destination_eq : route.destination = destination
  gateway_eq : route.gateway = Ipv4.ofOctets 0 0 0 0
  source_of_address : ∀ x a, r.interfaces[route.outIndex.toNat]? = some x → x.address = some a →
    route.source = a.address
  source_of_none : (∀ x, r.interfaces[route.outIndex.toNat]? = some x → x.address = none) →
    route.source = Ipv4.ofOctets 0 0 0 0
  outIndex_eq_zero_iff : route.outIndex = 0 ↔ ∃ b c d, destination = Ipv4.ofOctets 127 b c d

theorem sourceAddress_of_some {x : Interface} {a : InterfaceAddress}
    (hx : r.interfaces[index.toNat]? = some x) (ha : x.address = some a) :
    r.sourceAddress index = a.address := by
  obtain ⟨address, up⟩ := x
  obtain rfl : address = some a := ha
  rw [sourceAddress, hx]

theorem sourceAddress_of_none
    (h : ∀ x, r.interfaces[index.toNat]? = some x → x.address = none) :
    r.sourceAddress index = Ipv4.unspecified := by
  rw [sourceAddress]
  split
  · next a _ hx => exact absurd (h _ hx) (by simp)
  · rfl

/-! ### Routes -/

variable [Policy π]

theorem gives_of_decide {a : Arbiter π} {hop : NextHop}
    (h : a.decide packet header = .ok (.forward hop)) :
    r.Gives header.destination (r.routeOver header.destination hop) := by
  obtain ⟨hgateway, hzero⟩ := Arbiter.hop_of_decide h
  exact ⟨rfl, hgateway, fun x a => sourceAddress_of_some, sourceAddress_of_none,
    hzero.trans Ipv4.isLoopback_iff⟩

theorem value_lookup_of_requested {a : Arbiter π} (ha : r.arbiter = some a)
    (hrequested : requested.isSome = true) :
    (r.lookup packet header requested).value = .error (.routing .outputInterfaceRequested) := by
  rw [lookup, ha]
  simp only [hrequested, if_true]
  rfl

theorem value_lookup_of_none (ha : r.arbiter = none) :
    (r.lookup packet header requested).value = .error (.routing .arbiterNotSet) := by
  rw [lookup, ha]
  rfl

/-- Whoever asks, the route is the one that belongs to the decision. -/
theorem gives_of_lookup (h : (r.lookup packet header requested).value = .ok (some route)) :
    r.Gives header.destination route := by
  cases ha : r.arbiter with
  | none =>
      rw [value_lookup_of_none ha] at h
      exact absurd h (by simp)
  | some a =>
      cases requested with
      | some i =>
          rw [value_lookup_of_requested ha rfl] at h
          exact absurd h (by simp)
      | none =>
          rw [value_lookup ha] at h
          cases hdecide : a.decide packet header with
          | error e => simp [hdecide] at h
          | ok decision =>
              rw [hdecide] at h
              cases decision with
              | noRoute => exact absurd (Except.ok.inj h) (by simp [routeOf])
              | forward hop =>
                  obtain rfl := Option.some.inj (Except.ok.inj h)
                  exact gives_of_decide hdecide

/-- The answer to a socket, by the route that was found. -/
def answerOf : Option Route → Except SocketError Route
  | some route => .ok route
  | none => .error .noRouteToHost

theorem value_output_eq : (r.output packet header requested).value =
    (r.lookup packet header requested).value.map answerOf := by
  rw [output, Logged.value_bind]
  cases (r.lookup packet header requested).value with
  | error e => rfl
  | ok found =>
      cases found with
      | none => rfl
      | some route => rfl

end Router

/-- What becomes of a packet that came in, by the answer to the same packet if it originated
here. -/
def InputAction.ofOutput : Except SocketError Route → InputAction
  | .ok route => .forward route
  | .error .noRouteToHost => .drop

namespace Router

variable {π : Type} [Policy π] {r : Router π} {packet : Packet} {header : Ipv4Header}
variable {index i : UInt32} {x : Interface} {route : Route}

theorem value_input_of_missing (hindex : r.interfaces[index.toNat]? = none) :
    (r.input packet header index).value = .error (.routing (.noSuchInterface index)) := by
  rw [input, interface, hindex]
  rfl

/-- **A packet that is for another node is handled as if it originated here.** -/
theorem value_input_eq_map_output (hindex : r.interfaces[index.toNat]? = some x)
    (hlocal : r.isLocal header.destination = false) : (r.input packet header index).value =
      (r.output packet header none).value.map InputAction.ofOutput := by
  rw [value_input_of_not_local hindex hlocal, value_output_eq]
  cases (r.lookup packet header none).value with
  | error e => rfl
  | ok found =>
      cases found with
      | none => rfl
      | some route => rfl

theorem value_lookup_ne_missing :
    (r.lookup packet header none).value ≠ .error (.routing (.noSuchInterface i)) := by
  cases ha : r.arbiter with
  | none => simp [value_lookup_of_none ha]
  | some a =>
      rw [value_lookup ha]
      cases a.decide packet header with
      | error e => simp
      | ok decision => simp

/-- Only the interface on which a packet came in can be missing. -/
theorem value_input_eq_missing_iff :
    (r.input packet header index).value = .error (.routing (.noSuchInterface i)) ↔
      i = index ∧ r.interfaces.size ≤ index.toNat := by
  rw [← Array.getElem?_eq_none_iff]
  cases hindex : r.interfaces[index.toNat]? with
  | none => simp [value_input_of_missing hindex, eq_comm]
  | some x =>
      cases hlocal : r.isLocal header.destination with
      | true => simp [value_input_of_local hindex hlocal]
      | false =>
          have hne : (r.lookup packet header none).value ≠ .error (.routing (.noSuchInterface i)) :=
            value_lookup_ne_missing
          rw [value_input_of_not_local hindex hlocal]
          cases hlookup : (r.lookup packet header none).value with
          | error e => simpa [hlookup] using hne
          | ok found => cases found <;> simp

theorem value_input_eq_deliver_iff_hasAddress (hindex : r.interfaces[index.toNat]? = some x) :
    (r.input packet header index).value = .ok (.deliver i) ↔
      i = index ∧ r.HasAddress header.destination := by
  rw [value_input_eq_deliver hindex, isLocal_iff_hasAddress]

theorem gives_of_output {requested : Option UInt32}
    (h : (r.output packet header requested).value = .ok (.ok route)) :
    r.Gives header.destination route := by
  rw [value_output_eq] at h
  cases hlookup : (r.lookup packet header requested).value with
  | error e => simp [hlookup, Except.map] at h
  | ok found =>
      rw [hlookup] at h
      cases found with
      | none => simp [Except.map, answerOf] at h
      | some route' =>
          obtain rfl : route' = route := Except.ok.inj (Except.ok.inj h)
          exact gives_of_lookup hlookup

/-- What is forwarded is for another node, and its route is that of the packet going out. -/
theorem exists_output_of_forward (h : (r.input packet header index).value = .ok (.forward route)) :
    r.isLocal header.destination = false ∧
      (r.output packet header none).value = .ok (.ok route) := by
  cases hindex : r.interfaces[index.toNat]? with
  | none => simp [value_input_of_missing hindex] at h
  | some x =>
      cases hlocal : r.isLocal header.destination with
      | true => simp [value_input_of_local hindex hlocal] at h
      | false =>
          refine ⟨rfl, ?_⟩
          rw [value_input_eq_map_output hindex hlocal] at h
          cases houtput : (r.output packet header none).value with
          | error e => simp [houtput, Except.map] at h
          | ok answer =>
              rw [houtput] at h
              cases answer with
              | error e =>
                  cases e
                  simp [Except.map, InputAction.ofOutput] at h
              | ok route' =>
                  obtain rfl : route' = route := InputAction.forward.inj (Except.ok.inj h)
                  rfl

/-- **Packets that come in are handled like packets that originate here.**  In whatever state a
router is, and whatever its policy, a packet that came in is refused if and only if the interface is
missing.  Otherwise it is delivered if and only if some interface has its destination as address.
Otherwise the answer is that to the same packet going out: a route is one to forward the packet on,
no route means that it is dropped, and the faults are the same.  Every route that is given, one way
or the other, is for the destination of the packet and without a gateway; its source is the address
that its interface has at present, `0.0.0.0` if there is none; and its interface is that of
loop-back if and only if the destination is in `127.0.0.0/8`. -/
theorem input_agrees_with_output (r : Router π) (packet : Packet) (header : Ipv4Header)
    (index : UInt32) :
    (∀ i, (r.input packet header index).value = .error (.routing (.noSuchInterface i)) ↔
      i = index ∧ r.interfaces.size ≤ index.toNat) ∧
    (index.toNat < r.interfaces.size →
      (∀ i, (r.input packet header index).value = .ok (.deliver i) ↔
        i = index ∧ r.HasAddress header.destination) ∧
      (¬ r.HasAddress header.destination → (r.input packet header index).value =
        (r.output packet header none).value.map InputAction.ofOutput)) ∧
    (∀ requested route, (r.output packet header requested).value = .ok (.ok route) →
      r.Gives header.destination route) ∧
    ∀ route, (r.input packet header index).value = .ok (.forward route) →
      r.Gives header.destination route ∧ ¬ r.HasAddress header.destination := by
  refine ⟨fun i => value_input_eq_missing_iff, ?_, fun _ _ => gives_of_output, ?_⟩
  · intro hlt
    have hindex := Array.getElem?_eq_getElem hlt
    refine ⟨fun i => value_input_eq_deliver_iff_hasAddress hindex, ?_⟩
    intro hhas
    rw [← isLocal_iff_hasAddress, Bool.not_eq_true] at hhas
    exact value_input_eq_map_output hindex hhas
  · intro route h
    obtain ⟨hlocal, houtput⟩ := exists_output_of_forward h
    refine ⟨gives_of_output houtput, ?_⟩
    rw [← isLocal_iff_hasAddress, hlocal]
    decide

/-- A router with two interfaces.  The address of its link is local although the link is down, and
what is for another node leaves on an interface that the router does not have, from no address. -/
theorem input_agrees_with_output_when_down :
    ∃ t a r, Topology.build 4 [(1, 2), (0, 1)] = .ok t ∧
      Arbiter.create 1 t (Resolver.ofEntries [(⟨6⟩, 9)]) #[(7, 3), (8, 2)]
        (StaticChoice.mk (some 0)) = .ok a ∧
      (empty : Router StaticChoice).after
        [.addInterface, .addInterface, .addAddress 1 ⟨⟨5⟩, 24⟩, .setArbiter a] = r ∧
      (0 : UInt32).toNat < r.interfaces.size ∧ ¬ r.HasAddress ⟨6⟩ ∧ ∀ packet,
        (r.input packet (.probe ⟨5⟩ tcpProtocol) 0).value = .ok (.deliver 0) ∧
        (r.input packet (.probe ⟨5⟩ tcpProtocol) 2).value =
          .error (.routing (.noSuchInterface 2)) ∧
        ∃ route, (r.output packet (.probe ⟨6⟩ tcpProtocol) none).value = .ok (.ok route) ∧
          (r.input packet (.probe ⟨6⟩ tcpProtocol) 0).value = .ok (.forward route) ∧
          route.outIndex = 3 ∧ route.source = Ipv4.ofOctets 0 0 0 0 := by
  obtain ⟨t, a, r, ht, ha, hr, hinterfaces, houtput⟩ : ∃ t a r,
      Topology.build 4 [(1, 2), (0, 1)] = .ok t ∧
      Arbiter.create 1 t (Resolver.ofEntries [(⟨6⟩, 9)]) #[(7, 3), (8, 2)]
        (StaticChoice.mk (some 0)) = .ok a ∧
      (empty : Router StaticChoice).after
        [.addInterface, .addInterface, .addAddress 1 ⟨⟨5⟩, 24⟩, .setArbiter a] = r ∧
      r.interfaces = #[{}, ⟨some ⟨⟨5⟩, 24⟩, false⟩] ∧
      ∀ packet, (r.output packet (.probe ⟨6⟩ tcpProtocol) none).value =
        .ok (.ok ⟨⟨6⟩, ⟨0⟩, ⟨0⟩, 3⟩) := ⟨_, _, _, rfl, rfl, rfl, rfl, fun _ => rfl⟩
  have hsize : ((0 : UInt32).toNat < r.interfaces.size) := by rw [hinterfaces]; decide
  have hfive : r.HasAddress ⟨5⟩ := ⟨1, _, _, by rw [hinterfaces]; rfl, rfl, rfl⟩
  have hsix : ¬ r.HasAddress ⟨6⟩ := by
    rw [← isLocal_iff_hasAddress, isLocal, hinterfaces]
    simp
  refine ⟨t, a, r, ht, ha, hr, hsize, hsix, ?_⟩
  intro packet
  refine ⟨?_, ?_, _, houtput packet, ?_, rfl, ?_⟩
  · exact (((input_agrees_with_output r packet (.probe ⟨5⟩ tcpProtocol) 0).2.1 hsize).1 0).mpr
      ⟨rfl, hfive⟩
  · exact ((input_agrees_with_output r packet (.probe ⟨5⟩ tcpProtocol) 2).1 2).mpr
      ⟨rfl, by rw [hinterfaces]; decide⟩
  · rw [((input_agrees_with_output r packet (.probe ⟨6⟩ tcpProtocol) 0).2.1 hsize).2 hsix,
      houtput packet]
    rfl
  · refine ((input_agrees_with_output r packet (.probe ⟨6⟩ tcpProtocol) 0).2.2.1 none _
      (houtput packet)).source_of_none ?_
    rw [hinterfaces]
    exact fun x hx => absurd hx (by simp)

end Router

end Multipath
