import Multipath.Proofs.Arbiter.Installed
import Multipath.Proofs.Flow.Layout
import Multipath.Proofs.Flow.Mixing

/-!
# Changes of a flow that the hash is sure to show

The hash reads its 21 bytes in blocks of four, and the fields of a flow key do not keep to these
blocks:

* the source address is the first block and the destination address the second;
* the third block is the protocol, the source port and the upper byte of the destination port;
* the fourth is the lower byte of that port and the upper three bytes of the node;
* the fifth is the last byte of the node and the upper three bytes of the salt;
* the last byte of the salt is what remains.

A change of one field that keeps to one block is sure to change the hash
(`FlowKey.hash_ne_of_apart`); a change that goes across two of them need not.  The numbers of up to
256 nodes differ in their last byte only, so no two of these nodes have the same hash for a flow.
-/

namespace Multipath

/-! ### The bytes of a word -/

section Bytes

variable {p p' : UInt16} {w w' : UInt32}

theorem drop_bigEndian16_inj :
    (bigEndian16 p).drop 1 = (bigEndian16 p').drop 1 ↔ p.toNat % 256 = p'.toNat % 256 := by
  simp [bigEndian16, ← UInt8.toNat_inj]

theorem take_bigEndian16_inj :
    (bigEndian16 p).take 1 = (bigEndian16 p').take 1 ↔ p.toNat / 256 = p'.toNat / 256 := by
  have hp := p.toNat_lt
  have hp' := p'.toNat_lt
  simp only [bigEndian16, List.take_succ_cons, List.take_zero, List.cons.injEq, and_true,
    ← UInt8.toNat_inj, UInt16.toNat_toUInt8, UInt16.toNat_shiftRight, Nat.shiftRight_eq_div_pow,
    UInt16.reduceToNat, Nat.reduceMod]
  omega

theorem drop_bigEndian32_inj :
    (bigEndian32 w).drop 3 = (bigEndian32 w').drop 3 ↔ w.toNat % 256 = w'.toNat % 256 := by
  simp [bigEndian32, ← UInt8.toNat_inj]

theorem take_bigEndian32_inj :
    (bigEndian32 w).take 3 = (bigEndian32 w').take 3 ↔ w.toNat / 256 = w'.toNat / 256 := by
  have hw := w.toNat_lt
  have hw' := w'.toNat_lt
  simp only [bigEndian32, List.take_succ_cons, List.take_zero, List.cons.injEq, and_true,
    ← UInt8.toNat_inj, UInt32.toNat_toUInt8, UInt32.toNat_shiftRight, Nat.shiftRight_eq_div_pow,
    UInt32.reduceToNat, Nat.reduceMod]
  omega

end Bytes

/-! ### Keys -/

/-- Two numbers agree in their last byte, or in all that is in front of it. -/
def SharesBytes (m n : ℕ) : Prop :=
  m % 256 = n % 256 ∨ m / 256 = n / 256

namespace FlowKey

/-- Two keys that agree in all fields except one.  Where this field stands in two blocks of the
hashed bytes, its values agree in one of them. -/
inductive Apart (k : FlowKey) : FlowKey → Prop
  | source {ip : Ipv4} : k.source ≠ ip → Apart k { k with source := ip }
  | destination {ip : Ipv4} : k.destination ≠ ip → Apart k { k with destination := ip }
  | protocol {number : UInt8} : k.protocol ≠ number → Apart k { k with protocol := number }
  | sourcePort {port : UInt16} : k.sourcePort ≠ port → Apart k { k with sourcePort := port }
  | destinationPort {port : UInt16} : k.destinationPort ≠ port →
      SharesBytes k.destinationPort.toNat port.toNat → Apart k { k with destinationPort := port }
  | node {node : NodeId} : k.node ≠ node → SharesBytes k.node.toNat node.toNat →
      Apart k { k with node := node }
  | salt {salt : UInt32} : k.salt ≠ salt → SharesBytes k.salt.toNat salt.toNat →
      Apart k { k with salt := salt }

variable {k k' : FlowKey}

theorem Apart.ne (h : Apart k k') : k ≠ k' := by
  intro heq
  cases h with
  | source hne => exact hne (congrArg FlowKey.source heq)
  | destination hne => exact hne (congrArg FlowKey.destination heq)
  | protocol hne => exact hne (congrArg FlowKey.protocol heq)
  | sourcePort hne => exact hne (congrArg FlowKey.sourcePort heq)
  | destinationPort hne => exact hne (congrArg FlowKey.destinationPort heq)
  | node hne => exact hne (congrArg FlowKey.node heq)
  | salt hne => exact hne (congrArg FlowKey.salt heq)

/-- Two keys whose bytes differ in one block only have different hashes. -/
theorem hash_ne_of_block (n : ℕ) (hbefore : k.bytes.take (4 * n) = k'.bytes.take (4 * n))
    (hafter : k.bytes.drop (4 * n + 4) = k'.bytes.drop (4 * n + 4)) (hne : k ≠ k') :
    k.hash ≠ k'.hash :=
  Murmur.hash_ne_of_one_block 0 n rfl hbefore hafter (bytes_injective.ne hne)

/-- **A change that keeps to one block shows in the hash.** -/
theorem hash_ne_of_apart (h : Apart k k') : k.hash ≠ k'.hash := by
  have hne := h.ne
  cases h with
  | source => exact hash_ne_of_block 0 rfl rfl hne
  | destination => exact hash_ne_of_block 1 rfl rfl hne
  | protocol => exact hash_ne_of_block 2 rfl rfl hne
  | sourcePort => exact hash_ne_of_block 2 rfl rfl hne
  | @destinationPort port _ hshares =>
      rcases hshares with hlast | hfront
      · refine hash_ne_of_block 2 rfl ?_ hne
        show (bigEndian16 k.destinationPort).drop 1 ++ (bigEndian32 k.node ++ bigEndian32 k.salt) =
          (bigEndian16 port).drop 1 ++ (bigEndian32 k.node ++ bigEndian32 k.salt)
        rw [drop_bigEndian16_inj.mpr hlast]
      · refine hash_ne_of_block 3 ?_ rfl hne
        show k.bytes.take 11 ++ (bigEndian16 k.destinationPort).take 1 =
          k.bytes.take 11 ++ (bigEndian16 port).take 1
        rw [take_bigEndian16_inj.mpr hfront]
  | @node node _ hshares =>
      rcases hshares with hlast | hfront
      · refine hash_ne_of_block 3 rfl ?_ hne
        show (bigEndian32 k.node).drop 3 ++ bigEndian32 k.salt =
          (bigEndian32 node).drop 3 ++ bigEndian32 k.salt
        rw [drop_bigEndian32_inj.mpr hlast]
      · refine hash_ne_of_block 4 ?_ rfl hne
        show k.bytes.take 13 ++ (bigEndian32 k.node).take 3 =
          k.bytes.take 13 ++ (bigEndian32 node).take 3
        rw [take_bigEndian32_inj.mpr hfront]
  | @salt salt _ hshares =>
      rcases hshares with hlast | hfront
      · exact hash_ne_of_block 4 rfl (drop_bigEndian32_inj.mpr hlast) hne
      · refine hash_ne_of_block 5 ?_ rfl hne
        show k.bytes.take 17 ++ (bigEndian32 k.salt).take 3 =
          k.bytes.take 17 ++ (bigEndian32 salt).take 3
        rw [take_bigEndian32_inj.mpr hfront]

end FlowKey

/-! ### The nodes of a network -/

section Nodes

variable {t : Topology} {plan : AddressPlan} {params : Params} {arbiters : List (Arbiter Ecmp)}
variable {a : Arbiter Ecmp} {i : ℕ}

theorem CandidateTable.exists_eq_ofDistances {table : CandidateTable}
    (h : (CandidateTable.compute t params).value = .ok table) :
    ∃ d, table = CandidateTable.ofDistances t d := by
  by_cases hmax : t.numNodes ≤ params.maxNodes
  · cases hd : (DistanceTable.compute t : Except (Failure TopologyError) _) with
    | error e =>
        rw [compute, if_neg (UInt64.not_lt.mpr hmax), hd] at h
        exact absurd h (by simp)
    | ok d =>
        rw [compute_eq hmax hd] at h
        exact ⟨d, (Except.ok.inj h).symm⟩
  · rw [compute, if_pos (UInt64.not_le.mp hmax)] at h
    exact absurd h (by simp)

/-- The arbiters are those of the nodes in their order, whatever the topology and the plan. -/
theorem toNat_node_of_installEcmp (hsize : t.size < 2 ^ 32)
    (h : (installEcmp t plan params).value = .ok arbiters) (ha : arbiters[i]? = some a) :
    i < t.size ∧ a.node.toNat = i ∧ a.policy.hashSalt = params.hashSalt := by
  rw [installEcmp, Logged.value_bind] at h
  cases htable : (CandidateTable.compute t params).value with
  | error e =>
      rw [htable] at h
      exact absurd h (by simp)
  | ok table =>
      rw [htable] at h
      obtain ⟨d, rfl⟩ := CandidateTable.exists_eq_ofDistances htable
      obtain ⟨hlength, hat⟩ := getElem?_of_installRows h
      have hi := hlength ▸ (List.getElem?_eq_some_iff.mp ha).1
      obtain ⟨links, -, ha'⟩ := hat i _ (List.getElem?_eq_getElem hi)
      obtain rfl := Option.some.inj (ha'.symm.trans ha)
      have hlt : i < t.size := by
        simpa [CandidateTable.ofDistances, Topology.nodes_eq hsize] using hi
      refine ⟨hlt, ?_, rfl⟩
      rw [Nat.zero_add]
      exact UInt32.toNat_ofNat_of_lt' (hlt.trans hsize)

end Nodes

/-- **The hash is sure to show a change of one field.**  Two hashes that are asked for with equal
fields except one are different whenever this is an address, the protocol or the source port, and
also if it is the destination port, the node or the salt and its two values agree in their last byte
or in all that is in front of it.  In particular no two nodes of a network of at most 256 nodes have
the same hash for the same flow. -/
theorem hash_tells_apart :
    (∀ header packet node bare salt header' packet' node' bare' salt',
      (FlowKey.ofPacket header packet node bare salt).Apart
          (FlowKey.ofPacket header' packet' node' bare' salt') →
        (FlowKey.ofPacket header packet node bare salt).hash ≠
          (FlowKey.ofPacket header' packet' node' bare' salt').hash) ∧
    ∀ (t : Topology) plan params arbiters, (installEcmp t plan params).value = .ok arbiters →
      t.size ≤ 256 → ∀ (i j : ℕ) a b, arbiters[i]? = some a → arbiters[j]? = some b → i ≠ j →
        ∀ header packet bare header' packet' bare', header.source = header'.source →
          header.destination = header'.destination → header.protocol = header'.protocol →
          effectivePorts header packet bare = effectivePorts header' packet' bare' →
            a.policy.flowHash header packet a.node bare ≠
              b.policy.flowHash header' packet' b.node bare' := by
  refine ⟨fun _ _ _ _ _ _ _ _ _ _ => FlowKey.hash_ne_of_apart, ?_⟩
  intro t plan params arbiters hinstall hsize i j a b ha hb hij header packet bare header' packet'
    bare' hsource hdestination hprotocol hports
  have hlt : t.size < 2 ^ 32 := hsize.trans_lt (by decide)
  obtain ⟨hi, hanode, hasalt⟩ := toNat_node_of_installEcmp hlt hinstall ha
  obtain ⟨hj, hbnode, hbsalt⟩ := toNat_node_of_installEcmp hlt hinstall hb
  have hkey : FlowKey.ofPacket header' packet' b.node bare' b.policy.hashSalt =
      { FlowKey.ofPacket header packet a.node bare a.policy.hashSalt with node := b.node } := by
    simp only [FlowKey.ofPacket, hsource, hdestination, hprotocol, hports, hasalt, hbsalt]
  have hne : a.node ≠ b.node := by
    intro heq
    exact hij (hanode.symm.trans ((congrArg UInt32.toNat heq).trans hbnode))
  have hfront : a.node.toNat / 256 = b.node.toNat / 256 := by
    rw [Nat.div_eq_of_lt (by omega), Nat.div_eq_of_lt (by omega)]
  rw [Ecmp.flowHash, Ecmp.flowHash, hkey]
  exact FlowKey.hash_ne_of_apart (.node hne (Or.inr hfront))

/-- Two destination ports with the same upper byte, behind a TCP header.  And the two ends of a
link: one is asked about a fragment, the other about a probe, and neither packet shows its ports. -/
theorem hash_tells_apart_on_link :
    ∃ t arbiters a b, Topology.build 2 [(0, 1)] = .ok t ∧
      (installEcmp t ⟨#[(1, 1)], #[]⟩ {}).value = .ok arbiters ∧ t.size ≤ 256 ∧
      arbiters[0]? = some a ∧ arbiters[1]? = some b ∧
      (FlowKey.ofPacket ⟨⟨1⟩, ⟨2⟩, 6, 0, false⟩ ⟨5, 9, some (.tcp 80 443)⟩ 1 false 7).Apart
        (FlowKey.ofPacket ⟨⟨1⟩, ⟨2⟩, 6, 0, false⟩ ⟨6, 9, some (.tcp 80 444)⟩ 1 false 7) ∧
      (FlowKey.ofPacket ⟨⟨1⟩, ⟨2⟩, 6, 0, false⟩ ⟨5, 9, some (.tcp 80 443)⟩ 1 false 7).hash ≠
        (FlowKey.ofPacket ⟨⟨1⟩, ⟨2⟩, 6, 0, false⟩ ⟨6, 9, some (.tcp 80 444)⟩ 1 false 7).hash ∧
      a.policy.flowHash ⟨⟨1⟩, ⟨2⟩, 6, 3, true⟩ ⟨5, 9, some (.tcp 80 443)⟩ a.node false ≠
        b.policy.flowHash ⟨⟨1⟩, ⟨2⟩, 6, 0, false⟩ ⟨6, 0, none⟩ b.node true := by
  obtain ⟨t, arbiters, a, b, ht, harbiters, hsize, ha, hb⟩ : ∃ t arbiters a b,
      Topology.build 2 [(0, 1)] = .ok t ∧
      (installEcmp t ⟨#[(1, 1)], #[]⟩ {}).value = .ok arbiters ∧ t.size ≤ 256 ∧
      arbiters[0]? = some a ∧ arbiters[1]? = some b := ⟨_, _, _, _, rfl, rfl, by decide, rfl, rfl⟩
  have hport :
      (FlowKey.ofPacket ⟨⟨1⟩, ⟨2⟩, 6, 0, false⟩ ⟨5, 9, some (.tcp 80 443)⟩ 1 false 7).Apart
        (FlowKey.ofPacket ⟨⟨1⟩, ⟨2⟩, 6, 0, false⟩ ⟨6, 9, some (.tcp 80 444)⟩ 1 false 7) :=
    .destinationPort (by decide : (443 : UInt16) ≠ 444) (Or.inr (by decide))
  refine ⟨t, arbiters, a, b, ht, harbiters, hsize, ha, hb, hport, ?_, ?_⟩
  · exact hash_tells_apart.1 _ _ _ _ _ _ _ _ _ _ hport
  · exact hash_tells_apart.2 t _ _ arbiters harbiters hsize 0 1 a b ha hb (by decide)
      _ _ _ _ _ _ rfl rfl rfl rfl

end Multipath
