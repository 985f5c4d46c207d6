import Mathlib.Data.FinEnum
import Mathlib.Data.Int.CardIntervalMod
import Mathlib.Data.Set.Card
import Multipath.Proofs.Arbiter.Decide
import Multipath.Proofs.Flow.Mixing
import Multipath.Proofs.Topology.Graph

/-!
# The flows are spread evenly

The two addresses of a flow stand at the front of the hashed bytes, each at the place of a block.  So
the hash takes every value exactly once when one of the addresses runs through all `2 ^ 32` values
and everything else stays what it is.  A policy with `m` candidates reads the hash modulo `m`, and
each of its candidates therefore gets its share of the addresses (`ncard_choose`).
-/

namespace Multipath

/-! ### The hash as a function of an address -/

namespace FlowKey

theorem hash_source_injective (k : FlowKey) :
    Function.Injective fun ip : Ipv4 => ({ k with source := ip } : FlowKey).hash := by
  have hword := Murmur.hash_word_injective 0 [] (Nat.dvd_zero 4)
    (bigEndian32 k.destination.bits ++ [k.protocol] ++ bigEndian16 k.sourcePort ++
      bigEndian16 k.destinationPort ++ bigEndian32 k.node ++ bigEndian32 k.salt)
  rintro ⟨w⟩ ⟨w'⟩ h
  have hbits : w = w' := hword (by
    simpa only [hash, bytes, List.append_assoc, List.nil_append] using h)
  rw [hbits]

theorem hash_destination_injective (k : FlowKey) :
    Function.Injective fun ip : Ipv4 => ({ k with destination := ip } : FlowKey).hash := by
  have hword := Murmur.hash_word_injective 0 (bigEndian32 k.source.bits) (dvd_refl 4)
    ([k.protocol] ++ bigEndian16 k.sourcePort ++ bigEndian16 k.destinationPort ++
      bigEndian32 k.node ++ bigEndian32 k.salt)
  rintro ⟨w⟩ ⟨w'⟩ h
  have hbits : w = w' := hword (by simpa only [hash, bytes, List.append_assoc] using h)
  rw [hbits]

end FlowKey

/-! ### Shares -/

/-- The number of words with a given remainder. -/
theorem ncard_word_mod {m i : ℕ} (hi : i < m) :
    {w : ℕ | w < 2 ^ 32 ∧ w % m = i}.ncard = 2 ^ 32 / m + if i < 2 ^ 32 % m then 1 else 0 := by
  have hset : {w : ℕ | w < 2 ^ 32 ∧ w % m = i} =
      ((Finset.range (2 ^ 32)).filter fun w => w ≡ i [MOD m] : Finset ℕ) := by
    ext w
    simp [Nat.ModEq, Nat.mod_eq_of_lt hi]
  rw [hset, Set.ncard_coe_finset, ← Nat.count_eq_card_filter_range,
    Nat.count_modEq_card _ (Nat.zero_lt_of_lt hi), Nat.mod_eq_of_lt hi]

/-- A hash that tells all addresses apart takes every word as its value. -/
theorem range_toNat_comp {f : Ipv4 → UInt32} (hf : Function.Injective f) :
    Set.range (fun ip => (f ip).toNat) = {w | w < 2 ^ 32} := by
  have hinj : Function.Injective fun w : UInt32 => f ⟨w⟩ :=
    fun w w' h => congrArg Ipv4.bits (hf h)
  have hsurj := Finite.injective_iff_surjective.mp hinj
  ext w
  constructor
  · rintro ⟨ip, rfl⟩
    exact (f ip).toNat_lt
  · intro hw
    obtain ⟨v, hv⟩ := hsurj (UInt32.ofNat w)
    exact ⟨⟨v⟩, (congrArg UInt32.toNat hv).trans (UInt32.toNat_ofNat_of_lt' hw)⟩

theorem ncard_hash_mod {f : Ipv4 → UInt32} (hf : Function.Injective f) {m i : ℕ} (hi : i < m) :
    {ip | (f ip).toNat % m = i}.ncard = 2 ^ 32 / m + if i < 2 ^ 32 % m then 1 else 0 := by
  have hinj : Function.Injective fun ip => (f ip).toNat := fun _ _ h => hf (UInt32.toNat_inj.mp h)
  have hpreimage : {ip | (f ip).toNat % m = i} =
      Set.preimage (fun ip => (f ip).toNat) {w | w < 2 ^ 32 ∧ w % m = i} := by
    ext ip
    simp [(f ip).toNat_lt]
  rw [hpreimage, Set.ncard_preimage_of_injective_subset_range hinj, ncard_word_mod hi]
  intro w hw
  rw [range_toNat_comp hf]
  exact hw.1

/-! ### Choices -/

namespace Query

/-- The question about the same packet from another address. -/
def withSource (q : Query) (ip : Ipv4) : Query :=
  { q with header := { q.header with source := ip } }

/-- The question about the same packet to another address, of the same node. -/
def withDestination (q : Query) (ip : Ipv4) : Query :=
  { q with header := { q.header with destination := ip } }

end Query

namespace Ecmp

variable {p : Ecmp} {q : Query} {i : ℕ} {c : NodeId}

/-- If no candidate is listed twice, the remainder of the hash is the position of the choice. -/
theorem choose_eq_iff_mod (hnodup : (p.candidatesFor q.target).Nodup)
    (hc : (p.candidatesFor q.target)[i]? = some c) : p.choose q = .ok (some c) ↔
      (p.flowHash q.header q.packet q.node q.probe).toNat % (p.candidatesFor q.target).length = i := by
  have hi := (List.getElem?_eq_some_iff.mp hc).1
  rw [choose_eq_ok_iff, ← hc]
  constructor
  · intro h
    exact ((List.getElem?_inj hi hnodup).mp h.symm).symm
  · rintro rfl
    rfl

/-- **The flows are spread evenly.**  When one of the two addresses of a flow runs through all
values, each of the `m` candidates is chosen for `2 ^ 32 / m` of them; the remaining addresses, fewer
than `m`, go one by one to the first candidates.  In particular every candidate is chosen. -/
theorem ncard_choose (p : Ecmp) (q : Query) (hnodup : (p.candidatesFor q.target).Nodup)
    (hc : (p.candidatesFor q.target)[i]? = some c) :
    {ip | p.choose (q.withSource ip) = .ok (some c)}.ncard =
        2 ^ 32 / (p.candidatesFor q.target).length +
          (if i < 2 ^ 32 % (p.candidatesFor q.target).length then 1 else 0) ∧
      {ip | p.choose (q.withDestination ip) = .ok (some c)}.ncard =
        2 ^ 32 / (p.candidatesFor q.target).length +
          (if i < 2 ^ 32 % (p.candidatesFor q.target).length then 1 else 0) ∧
      (∃ ip, p.choose (q.withSource ip) = .ok (some c)) ∧
      ∃ ip, p.choose (q.withDestination ip) = .ok (some c) := by
  have hi := (List.getElem?_eq_some_iff.mp hc).1
  let key := FlowKey.ofPacket q.header q.packet q.node q.probe p.hashSalt
  have hsource : ∀ ip, p.choose (q.withSource ip) = .ok (some c) ↔
      ({ key with source := ip } : FlowKey).hash.toNat % (p.candidatesFor q.target).length = i :=
    fun ip => choose_eq_iff_mod (q := q.withSource ip) hnodup hc
  have hdestination : ∀ ip, p.choose (q.withDestination ip) = .ok (some c) ↔
      ({ key with destination := ip } : FlowKey).hash.toNat %
        (p.candidatesFor q.target).length = i :=
    fun ip => choose_eq_iff_mod (q := q.withDestination ip) hnodup hc
  have hshare := ncard_hash_mod key.hash_source_injective hi
  have hshare' := ncard_hash_mod key.hash_destination_injective hi
  simp only [← hsource] at hshare
  simp only [← hdestination] at hshare'
  -- different candidates are different words, so there are not more of them than addresses
  have hle : (p.candidatesFor q.target).length ≤ 2 ^ 32 :=
    length_le_of_nodup hnodup fun v _ => v.toNat_lt
  have hpos : 0 < 2 ^ 32 / (p.candidatesFor q.target).length :=
    Nat.div_pos hle (Nat.zero_lt_of_lt hi)
  refine ⟨hshare, hshare', ?_, ?_⟩
  · exact Set.nonempty_of_ncard_ne_zero (hshare ▸ (Nat.add_pos_left hpos _).ne')
  · exact Set.nonempty_of_ncard_ne_zero (hshare' ▸ (Nat.add_pos_left hpos _).ne')

/-- Three candidates, the first of which gets the address that is left over. -/
theorem ncard_choose_of_three :
    ([1, 2, 4] : List NodeId).Nodup ∧ ([1, 2, 4] : List NodeId)[0]? = some 1 ∧
      {ip | (Ecmp.mk #[[1, 2, 4]] 7).choose (Query.withSource
        ⟨3, 3, 0, ∅, ⟨1, 100, some (.tcp 80 443)⟩, ⟨default, default, tcpProtocol, 0, false⟩, false⟩
        ip) = .ok (some 1)}.ncard = 1431655766 := by
  have hnodup : ([1, 2, 4] : List NodeId).Nodup := by decide
  refine ⟨hnodup, rfl, ?_⟩
  exact (ncard_choose (i := 0) (c := 1) (Ecmp.mk #[[1, 2, 4]] 7)
    ⟨3, 3, 0, ∅, ⟨1, 100, some (.tcp 80 443)⟩, ⟨default, default, tcpProtocol, 0, false⟩, false⟩
    hnodup rfl).1

end Ecmp

end Multipath
