import Multipath.Arbiter.Static
import Multipath.Proofs.Arbiter.Verdict

/-!
# An arbiter is sound for every policy

A policy may answer anything.  What an arbiter makes of its answers does not depend on the policy
being right, only on the arbiter having been made for its node, whatever resolver and interface
numbers it was made with.

* `Made.question_eq_some_iff`: the policy is asked about the packets between known nodes, and it is
  told the truth about them (`Asked`);
* `Made.decide_congr`: about all other packets the policy has no say;
* `Made.hopTo_of_adj`, `Made.hopTo_of_le`, `Made.hopTo_of_not_adj`: a node that the policy selects
  is a neighbour, or no node, or no neighbour, and the arbiter tells these apart.
-/

namespace Multipath

variable {π ρ : Type} {t : Topology} {resolver : Resolver} {indices : Array (UInt32 × UInt32)}
variable {policy : π} {policy' : ρ} {v x source target : NodeId} {a : Arbiter π} {b : Arbiter ρ}
variable {packet : Packet} {header : Ipv4Header} {q : Query}

/-- The question that is put to the policy of `v` about a packet, in a network with graph `G`. -/
structure Asked (G : SimpleGraph NodeId) (resolver : Resolver) (v : NodeId) (packet : Packet)
    (header : Ipv4Header) (q : Query) : Prop where
  unicast : header.IsUnicast
  node_eq : q.node = v
  source : header.isProbe = true ∧ q.source = v ∨
    header.isProbe = false ∧ resolver.resolve header.source = .ok q.source
  target : resolver.resolve header.destination = .ok q.target
  neighbors : ∀ w, q.neighbors.contains w = true ↔ G.Adj v w
  packet_eq : q.packet = packet
  header_eq : q.header = header
  probe_eq : q.probe = header.isProbe

/-- There is at most one question about a packet. -/
theorem Asked.unique {G : SimpleGraph NodeId} {q' : Query} (h : Asked G resolver v packet header q)
    (h' : Asked G resolver v packet header q') : q = q' := by
  have hsource : q.source = q'.source := by
    rcases h.source with ⟨hprobe, hsource⟩ | ⟨hprobe, hsource⟩ <;>
      rcases h'.source with ⟨hprobe', hsource'⟩ | ⟨hprobe', hsource'⟩
    · exact hsource.trans hsource'.symm
    · exact absurd (hprobe.symm.trans hprobe') (by decide)
    · exact absurd (hprobe.symm.trans hprobe') (by decide)
    · exact Except.ok.inj (hsource.symm.trans hsource')
  have htarget : q.target = q'.target := Except.ok.inj (h.target.symm.trans h'.target)
  have hneighbors : q.neighbors = q'.neighbors :=
    Std.ExtTreeSet.ext_contains fun w =>
      Bool.eq_iff_iff.mpr ((h.neighbors w).trans (h'.neighbors w).symm)
  obtain ⟨-, rfl, -, -, -, rfl, rfl, hprobe⟩ := h
  obtain ⟨-, hnode, -, -, -, hpacket, hheader, hprobe'⟩ := h'
  cases q
  cases q'
  simp only at hnode hsource htarget hneighbors hpacket hheader hprobe hprobe'
  rw [hnode, hsource, htarget, hneighbors, hpacket, hheader, hprobe, hprobe']

/-! ### Arbiters that were made -/

/-- The arbiter of `v`, made with the given resolver, interface numbers and policy. -/
structure Made (t : Topology) (resolver : Resolver) (indices : Array (UInt32 × UInt32)) (v : NodeId)
    (policy : π) (a : Arbiter π) : Prop where
  lt_size : v.toNat < t.size
  node_eq : a.node = v
  topology_eq : a.topology = t
  resolver_eq : a.resolver = resolver
  policy_eq : a.policy = policy
  links_eq : InterfaceMap.ofEdges t v indices = .ok a.links

theorem made_of_create (h : Arbiter.create v t resolver indices policy = .ok a) :
    Made t resolver indices v policy a := by
  obtain ⟨links, hlinks, h⟩ := bind_eq_ok.mp h
  obtain rfl := Except.ok.inj h
  have hlt : v.toNat < t.size := by
    by_contra hge
    unfold InterfaceMap.ofEdges at hlinks
    split_ifs at hlinks with hsize hout
    exact absurd (Nat.not_lt.mp hge) hout
  exact ⟨hlt, rfl, rfl, rfl, rfl, hlinks⟩

namespace Made

section Asking

variable (ha : Made t resolver indices v policy a)
include ha

/-! ### What the policy is asked -/

theorem sourceOf_eq_ok_iff : a.sourceOf header = .ok source ↔ header.isProbe = true ∧ source = v ∨
    header.isProbe = false ∧ resolver.resolve header.source = .ok source := by
  cases hprobe : header.isProbe with
  | true =>
      rw [Arbiter.sourceOf_probe hprobe, ha.node_eq]
      simp [eq_comm]
  | false =>
      rw [Arbiter.sourceOf_of_not_probe hprobe, ha.resolver_eq]
      simp

variable (hc : t.Consistent)
include hc

/-- Between two nodes that are known, the policy is asked. -/
theorem exists_question (packet : Packet) (hunicast : header.IsUnicast)
    (hsource : header.isProbe = true ∧ source = v ∨
      header.isProbe = false ∧ resolver.resolve header.source = .ok source)
    (htarget : resolver.resolve header.destination = .ok target) :
    ∃ q, a.question packet header = .ok (some q) ∧ Asked t.graph resolver v packet header q := by
  obtain ⟨neighbors, hneighbors, hadj⟩ := hc.exists_neighbors ha.lt_size
  refine ⟨⟨v, source, target, neighbors, packet, header, header.isProbe⟩, ?_,
    hunicast, rfl, hsource, htarget, hadj, rfl, rfl, rfl⟩
  have hbetween : a.questionBetween source target packet header header.isProbe =
      .ok ⟨v, source, target, neighbors, packet, header, header.isProbe⟩ := by
    rw [Arbiter.questionBetween, ha.topology_eq, ha.node_eq, hneighbors]
    rfl
  rw [Arbiter.question, hunicast.1, hunicast.2, ha.sourceOf_eq_ok_iff.mpr hsource, ha.resolver_eq,
    htarget]
  simp only [Bool.false_eq_true, if_false, Failure.lift_ok, bind, Except.bind]
  rw [hbetween]
  rfl

/-- **The policy is asked about exactly the packets between known nodes, and is told the truth.** -/
theorem question_eq_some_iff : a.question packet header = .ok (some q) ↔
    Asked t.graph resolver v packet header q := by
  constructor
  · intro h
    have hparts := h
    unfold Arbiter.question at hparts
    split_ifs at hparts with hloopback hmulticast
    · exact absurd (Except.ok.inj hparts) (by simp)
    · obtain ⟨source, hsource, hparts⟩ := bind_eq_ok.mp hparts
      obtain ⟨target, htarget, -⟩ := bind_eq_ok.mp hparts
      rw [Failure.lift_eq_ok_iff] at hsource htarget
      obtain ⟨q', hq', hasked⟩ := ha.exists_question hc packet
        ⟨Bool.eq_false_iff.mpr hloopback, Bool.eq_false_iff.mpr hmulticast⟩
        (ha.sourceOf_eq_ok_iff.mp hsource) (ha.resolver_eq ▸ htarget)
      obtain rfl : q' = q := Option.some.inj (Except.ok.inj (hq'.symm.trans h))
      exact hasked
  · intro h
    obtain ⟨q', hq', hasked⟩ := ha.exists_question hc packet h.unicast h.source h.target
    exact hasked.unique h ▸ hq'

/-- The policy is asked if the destination is unicast and both ends of the packet are known. -/
theorem exists_question_iff : (∃ q, a.question packet header = .ok (some q)) ↔
    header.IsUnicast ∧ (header.isProbe = true ∨ ∃ w, resolver.resolve header.source = .ok w) ∧
      ∃ w, resolver.resolve header.destination = .ok w := by
  constructor
  · rintro ⟨q, hq⟩
    have hasked := (ha.question_eq_some_iff hc).mp hq
    exact ⟨hasked.unicast, hasked.source.imp And.left fun h => ⟨_, h.2⟩, _, hasked.target⟩
  · rintro ⟨hunicast, hsource, target, htarget⟩
    obtain ⟨source, hsource⟩ : ∃ source, header.isProbe = true ∧ source = v ∨
        header.isProbe = false ∧ resolver.resolve header.source = .ok source := by
      cases hprobe : header.isProbe with
      | true => exact ⟨v, Or.inl ⟨rfl, rfl⟩⟩
      | false =>
          obtain ⟨w, hw⟩ := hsource.resolve_left (by simp [hprobe])
          exact ⟨w, Or.inr ⟨rfl, hw⟩⟩
    obtain ⟨q, hq, -⟩ := ha.exists_question hc packet hunicast hsource htarget
    exact ⟨q, hq⟩

end Asking

/-! ### What becomes of the answer -/

section Answering

variable (ha : Made t resolver indices v policy a)
include ha

/-- Which question is asked does not depend on the policy. -/
theorem question_congr (hb : Made t resolver indices v policy' b) (packet : Packet)
    (header : Ipv4Header) : a.question packet header = b.question packet header := by
  have hsource : a.sourceOf header = b.sourceOf header := by
    rw [Arbiter.sourceOf, Arbiter.sourceOf, ha.node_eq, hb.node_eq, ha.resolver_eq, hb.resolver_eq]
  have hbetween : ∀ source target,
      a.questionBetween source target packet header header.isProbe =
        b.questionBetween source target packet header header.isProbe := by
    intro source target
    rw [Arbiter.questionBetween, Arbiter.questionBetween, ha.node_eq, hb.node_eq, ha.topology_eq,
      hb.topology_eq]
  rw [Arbiter.question, Arbiter.question, hsource, ha.resolver_eq, hb.resolver_eq]
  simp only [hbetween]

/-- About a packet that it is not asked about, a policy has no say. -/
theorem decide_congr [Policy π] [Policy ρ] (hb : Made t resolver indices v policy' b)
    (hnone : ∀ q, a.question packet header ≠ .ok (some q)) :
    a.decide packet header = b.decide packet header := by
  rw [Arbiter.decide, Arbiter.decide, ← ha.question_congr hb]
  cases hquestion : a.question packet header with
  | error e => rfl
  | ok asked =>
      cases asked with
      | none => rfl
      | some q => exact absurd hquestion (hnone q)

theorem hopTo_of_le (hx : t.size ≤ x.toNat) :
    a.hopTo x = .error (.nodeOutOfRange x t.numNodes) := by
  rw [Arbiter.hopTo, ha.topology_eq, if_pos hx]

variable (hc : t.Consistent)
include hc

/-- A neighbour is reached over the interface of `v` on the edge between them. -/
theorem hopTo_of_adj (hadj : t.graph.Adj v x) : ∃ link far,
    a.hopTo x = .ok (.link link) ∧ Joined t indices ⟨v, link.val⟩ ⟨x, far⟩ := by
  obtain ⟨link, hlink⟩ :=
    InterfaceMap.exists_linkTo_of_ofEdges ha.links_eq hc ha.lt_size hadj
  obtain ⟨far, hj⟩ :=
    (InterfaceMap.linkTo_iff_of_ofEdges ha.links_eq hc ha.lt_size x link).mp hlink
  refine ⟨link, far, Arbiter.hopTo_eq_ok ?_ hlink, hj⟩
  exact ha.topology_eq ▸ hc.adj_lt_size hadj

theorem hopTo_of_not_adj (hx : x.toNat < t.size) (hadj : ¬ t.graph.Adj v x) :
    a.hopTo x = .error (.notANeighbor x v) := by
  have hlink : a.linkTo x = none := eq_none_of_not_adj hc
    (fun link => (InterfaceMap.linkTo_iff_of_ofEdges ha.links_eq hc ha.lt_size x link).mp) hadj
  rw [Arbiter.hopTo, ha.topology_eq, if_neg (Nat.not_le.mpr hx), hlink, ha.node_eq]

variable [Policy π] (hq : a.question packet header = .ok (some q))
variable (hchoose : Policy.choose policy q = .ok (some x))
include hq hchoose

/-- The arbiter tells apart what the policy may have selected: a neighbour, no node at all, and a
node that is no neighbour. -/
theorem exists_outcome :
    (t.graph.Adj v x ∧ ∃ link far, a.decide packet header = .ok (.forward (.link link)) ∧
        Joined t indices ⟨v, link.val⟩ ⟨x, far⟩) ∨
      (t.size ≤ x.toNat ∧
        a.decide packet header = .error (.error (.nodeOutOfRange x t.numNodes))) ∨
      (x.toNat < t.size ∧ ¬ t.graph.Adj v x ∧
        a.decide packet header = .error (.error (.notANeighbor x v))) := by
  rw [← ha.policy_eq] at hchoose
  rw [Arbiter.decide_of_question hq]
  rcases Nat.lt_or_ge x.toNat t.size with hx | hx
  · by_cases hadj : t.graph.Adj v x
    · obtain ⟨link, far, hhop, hj⟩ := ha.hopTo_of_adj hc hadj
      refine Or.inl ⟨hadj, link, far, ?_, hj⟩
      rw [Arbiter.answer_of_choose hchoose hhop, Failure.lift_ok]
    · refine Or.inr (Or.inr ⟨hx, hadj, ?_⟩)
      rw [Arbiter.answer_of_hopTo_error hchoose (ha.hopTo_of_not_adj hc hx hadj),
        Failure.lift_error]
  · refine Or.inr (Or.inl ⟨hx, ?_⟩)
    rw [Arbiter.answer_of_hopTo_error hchoose (ha.hopTo_of_le hx), Failure.lift_error]

end Answering

end Made

/-- **An arbiter is sound for every policy.**  Let an arbiter be made for a node of a built
topology, with any resolver, interface numbers and policy for which this succeeds.

* The policy is asked about a packet if and only if its destination is unicast and known, and its
  source is known unless the packet is a probe.  It is told the truth about the packet, and the
  neighbours of its node in the graph.  About all other packets no policy has a say.
* If the policy selects a node, the packet goes there exactly if the node is a neighbour, over the
  interface that the numbers give to this side of the edge.  Any other selection is a fault, and
  the two kinds of fault are told apart.
* If the policy selects nothing there is no route, and its own faults are passed on. -/
theorem decide_under_any_policy [Policy π] {numNodes : UInt64} {edges : List Edge}
    {endpoints : List NodeId} (h : Topology.build numNodes edges endpoints = .ok t)
    (ha : Arbiter.create v t resolver indices policy = .ok a) (packet : Packet)
    (header : Ipv4Header) :
    ((∃ q, a.question packet header = .ok (some q)) ↔
      header.IsUnicast ∧ (header.isProbe = true ∨ ∃ w, resolver.resolve header.source = .ok w) ∧
        ∃ w, resolver.resolve header.destination = .ok w) ∧
    (∀ q, a.question packet header = .ok (some q) ↔
      Asked (linkGraph edges) resolver v packet header q) ∧
    ((∀ q, a.question packet header ≠ .ok (some q)) →
      ∀ {ρ : Type} [Policy ρ] (policy' : ρ) (b : Arbiter ρ),
        Arbiter.create v t resolver indices policy' = .ok b →
        a.decide packet header = b.decide packet header) ∧
    ∀ q, a.question packet header = .ok (some q) →
      (∀ fault, Policy.choose policy q = .error fault →
        a.decide packet header = .error (.error fault)) ∧
      (Policy.choose policy q = .ok none → a.decide packet header = .ok .noRoute) ∧
      ∀ x, Policy.choose policy q = .ok (some x) →
        ((∃ hop, a.decide packet header = .ok (.forward hop)) ↔ (linkGraph edges).Adj v x) ∧
        (∀ hop, a.decide packet header = .ok (.forward hop) →
          hop.gateway = Ipv4.ofOctets 0 0 0 0 ∧ hop.index ≠ 0 ∧
            ∃ far, Joined t indices ⟨v, hop.index⟩ ⟨x, far⟩) ∧
        (a.decide packet header = .error (.error (.nodeOutOfRange x numNodes)) ↔
          numNodes.toNat ≤ x.toNat) ∧
        (a.decide packet header = .error (.error (.notANeighbor x v)) ↔
          x.toNat < numNodes.toNat ∧ ¬ (linkGraph edges).Adj v x) := by
  have hc := Topology.consistent_of_build h
  have hsize := Topology.size_of_build h
  have hnum : t.numNodes = numNodes := UInt64.toNat_inj.mp hsize
  have hmade := made_of_create ha
  rw [← Topology.graph_of_build h, ← hsize, ← hnum]
  refine ⟨hmade.exists_question_iff hc, fun q => hmade.question_eq_some_iff hc, ?_, ?_⟩
  · intro hnone ρ _ policy' b hb
    exact hmade.decide_congr (made_of_create hb) hnone
  · intro q hq
    rw [← hmade.policy_eq]
    refine ⟨?_, ?_, ?_⟩
    · intro fault hfault
      rw [Arbiter.decide_of_question hq, Arbiter.answer_of_error hfault, Failure.lift_error]
    · intro hnone
      rw [Arbiter.decide_of_question hq, Arbiter.answer_of_none hnone, Failure.lift_ok]
    · intro x hx
      have hrange : t.graph.Adj v x → x.toNat < t.size := fun hadj => hc.adj_lt_size hadj
      rcases hmade.exists_outcome hc hq (hmade.policy_eq ▸ hx) with
        ⟨hadj, link, far, hdecide, hj⟩ | ⟨hout, hdecide⟩ | ⟨hin, hadj, hdecide⟩ <;>
        rw [hdecide]
      · refine ⟨by simp [hadj], ?_, by simp [hrange hadj], by simp [hadj]⟩
        rintro hop hhop
        obtain rfl : NextHop.link link = hop := Decision.forward.inj (Except.ok.inj hhop)
        exact ⟨rfl, link.ne_zero, far, hj⟩
      · have hadj : ¬ t.graph.Adj v x := fun hadj => absurd (hrange hadj) (Nat.not_lt.mpr hout)
        exact ⟨by simp [hadj], by simp, by simp [hout], by simp [hout]⟩
      · exact ⟨by simp [hadj], by simp, by simp [hin], by simp [hin, hadj]⟩

/-- The middle one of three nodes in a row, under policies that always select a neighbour, the node
itself, and what is no node.  The destination belongs to a node that does not exist, which does not
matter as long as the policy knows what to do. -/
theorem decide_under_static_choices :
    ∃ t a b c, Topology.build 4 [(1, 2), (0, 1)] = .ok t ∧
      Arbiter.create 1 t (Resolver.ofEntries [(⟨5⟩, 9)]) #[(7, 3), (8, 2)]
        (StaticChoice.mk (some 0)) = .ok a ∧
      Arbiter.create 1 t (Resolver.ofEntries [(⟨5⟩, 9)]) #[(7, 3), (8, 2)]
        (StaticChoice.mk (some 1)) = .ok b ∧
      Arbiter.create 1 t (Resolver.ofEntries [(⟨5⟩, 9)]) #[(7, 3), (8, 2)]
        (StaticChoice.mk (some 4)) = .ok c ∧
      ∀ packet,
        (∃ hop far, a.decide packet (.probe ⟨5⟩ tcpProtocol) = .ok (.forward hop) ∧
          Joined t #[(7, 3), (8, 2)] ⟨1, hop.index⟩ ⟨0, far⟩) ∧
        b.decide packet (.probe ⟨5⟩ tcpProtocol) = .error (.error (.notANeighbor 1 1)) ∧
        c.decide packet (.probe ⟨5⟩ tcpProtocol) = .error (.error (.nodeOutOfRange 4 4)) := by
  obtain ⟨t, a, b, c, ht, ha, hb, hc⟩ : ∃ t a b c, Topology.build 4 [(1, 2), (0, 1)] = .ok t ∧
      Arbiter.create 1 t (Resolver.ofEntries [(⟨5⟩, 9)]) #[(7, 3), (8, 2)]
        (StaticChoice.mk (some 0)) = .ok a ∧
      Arbiter.create 1 t (Resolver.ofEntries [(⟨5⟩, 9)]) #[(7, 3), (8, 2)]
        (StaticChoice.mk (some 1)) = .ok b ∧
      Arbiter.create 1 t (Resolver.ofEntries [(⟨5⟩, 9)]) #[(7, 3), (8, 2)]
        (StaticChoice.mk (some 4)) = .ok c := ⟨_, _, _, _, rfl, rfl, rfl, rfl⟩
  refine ⟨t, a, b, c, ht, ha, hb, hc, ?_⟩
  intro packet
  have hknown : (Ipv4Header.probe ⟨5⟩ tcpProtocol).IsUnicast ∧
      ((Ipv4Header.probe ⟨5⟩ tcpProtocol).isProbe = true ∨
        ∃ w, (Resolver.ofEntries [(⟨5⟩, 9)]).resolve Ipv4Header.probeSource = .ok w) ∧
      ∃ w, (Resolver.ofEntries [(⟨5⟩, 9)]).resolve ⟨5⟩ = .ok w :=
    ⟨⟨rfl, rfl⟩, Or.inl (Ipv4Header.isProbe_probe _ _), 9, rfl⟩
  refine ⟨?_, ?_, ?_⟩
  · obtain ⟨hasked, -, -, hanswer⟩ := decide_under_any_policy ht ha packet (.probe ⟨5⟩ tcpProtocol)
    obtain ⟨q, hq⟩ := hasked.mpr hknown
    obtain ⟨hforward, hhop, -, -⟩ := (hanswer q hq).2.2 0 rfl
    obtain ⟨hop, hdecide⟩ := hforward.mpr (linkGraph_adj.mpr (by decide))
    obtain ⟨-, -, far, hj⟩ := hhop hop hdecide
    exact ⟨hop, far, hdecide, hj⟩
  · obtain ⟨hasked, -, -, hanswer⟩ := decide_under_any_policy ht hb packet (.probe ⟨5⟩ tcpProtocol)
    obtain ⟨q, hq⟩ := hasked.mpr hknown
    exact ((hanswer q hq).2.2 1 rfl).2.2.2.mpr ⟨by decide, SimpleGraph.irrefl _⟩
  · obtain ⟨hasked, -, -, hanswer⟩ := decide_under_any_policy ht hc packet (.probe ⟨5⟩ tcpProtocol)
    obtain ⟨q, hq⟩ := hasked.mpr hknown
    exact ((hanswer q hq).2.2 4 rfl).2.2.1.mpr (by decide)

end Multipath
