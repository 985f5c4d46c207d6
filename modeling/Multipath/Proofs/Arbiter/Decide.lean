import Multipath.Arbiter.Install
import Multipath.Proofs.Folds

/-!
# What an arbiter decides

A packet to a unicast destination whose two ends are known is put to the policy, whatever the policy
is (`decide_eq_decideBetween`).  The multi-path policy answers with the candidate of its table that the
hash of the flow selects, and it fails if there is none (`Ecmp.choose_eq_ok_iff`,
`Ecmp.choose_of_nil`).
-/

namespace Multipath

/-! ### The multi-path policy -/

namespace Ecmp

variable {p : Ecmp} {q : Query}

theorem choose_of_nil (h : p.candidatesFor q.target = []) :
    p.choose q = .error (.noCandidates q.source q.target q.node) := by
  rw [choose, h]

/-- The choice is the candidate at the position that the hash of the flow selects. -/
theorem choose_eq_ok_iff {x : NodeId} : p.choose q = .ok (some x) ↔
    (p.candidatesFor q.target)[(p.flowHash q.header q.packet q.node q.probe).toNat %
      (p.candidatesFor q.target).length]? = some x := by
  unfold choose
  cases hc : p.candidatesFor q.target with
  | nil => simp
  | cons first others =>
      have hlt : (p.flowHash q.header q.packet q.node q.probe).toNat %
          (first :: others).length < (first :: others).length :=
        Nat.mod_lt _ (Nat.succ_pos _)
      rw [List.getElem?_eq_getElem hlt]
      simp [select]

end Ecmp

/-! ### Asking the policy -/

namespace Arbiter

variable {π : Type} {a : Arbiter π} {packet : Packet} {header : Ipv4Header} {source target : NodeId}
variable {neighbors : NodeSet}

theorem sourceOf_probe (h : header.isProbe = true) : a.sourceOf header = .ok a.node := by
  rw [sourceOf, if_pos h]

theorem sourceOf_of_not_probe (h : header.isProbe = false) :
    a.sourceOf header = a.resolver.resolve header.source := by
  rw [sourceOf, h]
  rfl

theorem hopTo_eq_ok {selected : NodeId} {link : LinkIndex}
    (hlt : selected.toNat < a.topology.size) (hlink : a.linkTo selected = some link) :
    a.hopTo selected = .ok (.link link) := by
  rw [hopTo, if_neg (Nat.not_le.mpr hlt), hlink]

variable [Policy π]

/-- Which packets are decided without the policy, and what is asked about the others. -/
theorem decide_eq_bind (a : Arbiter π) (packet : Packet) (header : Ipv4Header) :
    a.decide packet header =
      if header.destination.isLoopback then .ok (.forward .loopback)
      else if header.destination.isMulticast then .error (.error (.multicast header.destination))
      else (do
        let source ← Failure.lift (a.sourceOf header)
        let target ← Failure.lift (a.resolver.resolve header.destination)
        a.decideBetween source target packet header header.isProbe) := by
  rw [decide, question]
  split_ifs
  · rfl
  · rfl
  · cases a.sourceOf header with
    | error e => rfl
    | ok source =>
        cases a.resolver.resolve header.destination with
        | error e => rfl
        | ok target =>
            simp only [Failure.lift_ok, bind, Except.bind, decideBetween]
            cases a.questionBetween source target packet header header.isProbe with
            | error e => rfl
            | ok q => rfl

/-- Between two nodes that are known, it is for the policy to decide. -/
theorem decide_eq_decideBetween (packet : Packet) (hloopback : header.destination.isLoopback = false)
    (hmulticast : header.destination.isMulticast = false)
    (hsource : a.sourceOf header = .ok source)
    (htarget : a.resolver.resolve header.destination = .ok target) :
    a.decide packet header = a.decideBetween source target packet header header.isProbe := by
  rw [decide_eq_bind, hloopback, hmulticast, hsource, htarget]
  rfl

theorem decideBetween_eq_answer {probe : Bool}
    (hneighbors : a.topology.neighbors a.node = (.ok neighbors : Except (Failure ArbiterError) _)) :
    a.decideBetween source target packet header probe =
      Failure.lift (a.answer ⟨a.node, source, target, neighbors, packet, header, probe⟩) := by
  rw [decideBetween, questionBetween, hneighbors]
  rfl

theorem decide_of_question {q : Query} (h : a.question packet header = .ok (some q)) :
    a.decide packet header = Failure.lift (a.answer q) := by
  rw [decide, h]
  rfl

theorem answer_of_choose {q : Query} {selected : NodeId} {hop : NextHop}
    (hchoose : Policy.choose a.policy q = .ok (some selected)) (hhop : a.hopTo selected = .ok hop) :
    a.answer q = .ok (.forward hop) := by
  rw [answer, hchoose]
  simp only [bind, Except.bind]
  rw [hhop]
  rfl

theorem answer_of_hopTo_error {q : Query} {selected : NodeId} {fault : ArbiterError}
    (hchoose : Policy.choose a.policy q = .ok (some selected))
    (hhop : a.hopTo selected = .error fault) : a.answer q = .error fault := by
  rw [answer, hchoose]
  simp only [bind, Except.bind]
  rw [hhop]

theorem answer_of_none {q : Query} (hchoose : Policy.choose a.policy q = .ok none) :
    a.answer q = .ok .noRoute := by
  rw [answer, hchoose]
  rfl

theorem answer_of_error {q : Query} {fault : ArbiterError}
    (hchoose : Policy.choose a.policy q = .error fault) : a.answer q = .error fault := by
  rw [answer, hchoose]
  rfl

@[simp] theorem value_decideLogged (a : Arbiter π) (packet : Packet) (header : Ipv4Header) :
    (a.decideLogged packet header).value = a.decide packet header := by
  rw [decideLogged]
  split <;> rfl

end Arbiter

end Multipath
