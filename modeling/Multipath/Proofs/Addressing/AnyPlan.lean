import Mathlib.Data.Set.Card
import Mathlib.Order.Bounds.Basic
import Multipath.Proofs.Addressing.Slots

/-!
# The resolver of any plan

A plan that was restored from storage need not be that of a topology: nodes may share addresses, a
link may have the address of loop-back, and a node may have no interfaces at all.  Its resolver is
nevertheless well determined.  The entries are made node by node, in increasing order of the nodes
(`AddressPlan.pairwise_linkOwners`), and the last entry for an address counts.  So an address belongs
to the greatest node that has it on a link (`AddressPlan.resolver_of_any_plan`); interface 0 is never
among the links, whatever its address is.
-/

namespace Multipath

variable {p : AddressPlan} {v : NodeId} {ip : Ipv4}

/-! ### Entries in the order of their owners -/

namespace Resolver

variable {entries : List (Ipv4 × NodeId)}

/-- Where owners only grow, the last owner of an address is the greatest. -/
theorem resolve_ofEntries_iff_isGreatest (h : entries.Pairwise fun e e' => e.2 ≤ e'.2) :
    (ofEntries entries).resolve ip = .ok v ↔ IsGreatest {w | (ip, w) ∈ entries} v := by
  rw [resolve_eq_ok]
  induction entries using List.reverseRecOn with
  | nil => simp [ofEntries, IsGreatest]
  | append_singleton entries e ih =>
      obtain ⟨key, w⟩ := e
      obtain ⟨hbefore, -, hlast⟩ := List.pairwise_append.mp h
      rw [getElem?_owners_concat]
      by_cases hip : key = ip
      · subst hip
        have hgreatest : IsGreatest {u | (key, u) ∈ entries ++ [(key, w)]} w := by
          refine ⟨by simp, fun u hu => ?_⟩
          rcases List.mem_append.mp hu with hu | hu
          · exact hlast _ hu _ (List.mem_singleton_self _)
          · exact UInt32.le_of_eq (Prod.mk.inj (List.mem_singleton.mp hu)).2
        rw [if_pos rfl, Option.some.injEq]
        constructor
        · rintro rfl
          exact hgreatest
        · intro hv
          exact UInt32.le_antisymm (hv.2 hgreatest.1) (hgreatest.2 hv.1)
      · have hsame : {u | (ip, u) ∈ entries ++ [(key, w)]} = {u | (ip, u) ∈ entries} := by
          ext u
          simp [Ne.symm hip]
        rw [if_neg hip, ih hbefore, hsame]

/-- An address is unknown if and only if no entry is about it. -/
theorem resolve_ofEntries_eq_error_iff : (ofEntries entries).resolve ip =
    .error (.unknownAddress ip) ↔ ∀ v, (ip, v) ∉ entries := by
  rw [← not_exists, ← mem_owners_ofEntries, Std.ExtTreeMap.mem_iff_isSome_getElem?, resolve]
  cases (ofEntries entries).owners[ip]? with
  | none => simp
  | some v => simp

theorem size_ofEntries_eq_ncard :
    (ofEntries entries).size = {ip | ∃ v, (ip, v) ∈ entries}.ncard := by
  have hset : {ip | ∃ v, (ip, v) ∈ entries} = ((entries.map Prod.fst).toFinset : Set Ipv4) := by
    ext ip
    simp
  rw [hset, Set.ncard_coe_finset, List.card_toFinset]
  exact size_ofEntries (List.nodup_dedup _) fun ip => by simp

theorem isEmpty_ofEntries_iff :
    (ofEntries entries).isEmpty = true ↔ ∀ ip v, (ip, v) ∉ entries := by
  rw [isEmpty, ofEntries, Std.ExtTreeMap.isEmpty_iff, Std.ExtTreeMap.ofList_eq_empty_iff,
    List.eq_nil_iff_forall_not_mem, Prod.forall]

end Resolver

/-! ### The entries of a plan -/

namespace AddressPlan

/-- The owners of the entries only grow. -/
theorem pairwise_linkOwners (hsize : p.interfaces.size ≤ 2 ^ 32) :
    p.linkOwners.Pairwise fun e e' => e.2 ≤ e'.2 := by
  rw [linkOwners, List.pairwise_flatMap]
  constructor
  · rintro ⟨own, node⟩ -
    exact List.pairwise_map.mpr (List.pairwise_of_forall fun _ _ => UInt32.le_rfl)
  · refine List.pairwise_iff_getElem.mpr fun i j hi hj hij => ?_
    rw [List.getElem_zipIdx, List.getElem_zipIdx, Nat.zero_add, Nat.zero_add]
    intro e he e' he'
    obtain ⟨-, -, rfl⟩ := List.mem_map.mp he
    obtain ⟨-, -, rfl⟩ := List.mem_map.mp he'
    have hlt : j < 2 ^ 32 := by
      rw [List.length_zipIdx, Array.length_toList] at hj
      exact hj.trans_le hsize
    rw [UInt32.le_iff_toNat_le, UInt32.toNat_ofNat_of_lt' (hij.trans hlt),
      UInt32.toNat_ofNat_of_lt' hlt]
    exact hij.le

/-- **The resolver of any plan.**  Whatever the interfaces are, an address resolves to the greatest
node that has it on an interface other than 0.  If there is no such node, the address is unknown.
The size of the resolver is the number of different addresses on these interfaces, however often each
of them occurs. -/
theorem resolver_of_any_plan (p : AddressPlan) (h : p.interfaces.size < 2 ^ 32) :
    (∀ ip v, p.resolver.resolve ip = .ok v ↔
      IsGreatest {w | ∃ k a, 1 ≤ k ∧ p.Carries w k a ∧ a.address = ip} v) ∧
    (∀ ip, p.resolver.resolve ip = .error (.unknownAddress ip) ↔
      ∀ v k a, 1 ≤ k → p.Carries v k a → a.address ≠ ip) ∧
    p.resolver.size = {ip | ∃ v k a, 1 ≤ k ∧ p.Carries v k a ∧ a.address = ip}.ncard ∧
    (p.resolver.isEmpty = true ↔ ∀ v k a, 1 ≤ k → ¬ p.Carries v k a) := by
  have hmem : ∀ {ip v}, (ip, v) ∈ p.linkOwners ↔
      ∃ k a, 1 ≤ k ∧ p.Carries v k a ∧ a.address = ip :=
    (mem_linkOwners h.le).trans isLinkAddress_iff_exists_carries
  refine ⟨fun ip v => ?_, fun ip => ?_, ?_, ?_⟩
  · simp only [resolver, Resolver.resolve_ofEntries_iff_isGreatest (pairwise_linkOwners h.le), hmem]
  · rw [resolver, Resolver.resolve_ofEntries_eq_error_iff]
    simp only [hmem, not_exists, not_and]
  · simp only [resolver, Resolver.size_ofEntries_eq_ncard, hmem]
  · rw [resolver, Resolver.isEmpty_ofEntries_iff]
    simp only [hmem, not_exists, not_and]
    exact ⟨fun hnone v k a hk ha => hnone _ v k a hk ha rfl,
      fun hnone ip v k a hk ha _ => hnone v k a hk ha⟩

/-- Two nodes share an address, and the greater one of them also has the address of loop-back on a
link.  A node without interfaces and an interface 0 with the shared address make no difference. -/
theorem resolver_of_shared_address :
    ∃ p : AddressPlan, p.interfaces = #[#[InterfaceAddress.loopback, ⟨⟨5⟩, 24⟩], #[],
        #[InterfaceAddress.loopback, ⟨⟨5⟩, 24⟩, InterfaceAddress.loopback], #[⟨⟨5⟩, 24⟩]] ∧
      p.interfaces.size < 2 ^ 32 ∧ p.resolver.resolve ⟨5⟩ = .ok 2 ∧
      IsGreatest {w | ∃ k a, 1 ≤ k ∧ p.Carries w k a ∧ a.address = ⟨5⟩} 2 ∧
      p.resolver.resolve ⟨6⟩ = .error (.unknownAddress ⟨6⟩) ∧
      (∀ v k a, 1 ≤ k → p.Carries v k a → a.address ≠ ⟨6⟩) ∧
      {ip | ∃ v k a, 1 ≤ k ∧ p.Carries v k a ∧ a.address = ip}.ncard = 2 := by
  let p : AddressPlan := ⟨#[], #[#[InterfaceAddress.loopback, ⟨⟨5⟩, 24⟩], #[],
    #[InterfaceAddress.loopback, ⟨⟨5⟩, 24⟩, InterfaceAddress.loopback], #[⟨⟨5⟩, 24⟩]]⟩
  have hsize : p.interfaces.size < 2 ^ 32 := by decide
  have hshared : p.resolver.resolve ⟨5⟩ = .ok 2 := by rfl
  have hnobody : p.resolver.resolve ⟨6⟩ = .error (.unknownAddress ⟨6⟩) := by rfl
  have hentries : p.resolver.size = 2 := by rfl
  obtain ⟨hresolve, hunknown, hcount, -⟩ := resolver_of_any_plan p hsize
  exact ⟨p, rfl, hsize, hshared, (hresolve ⟨5⟩ 2).mp hshared, hnobody, (hunknown ⟨6⟩).mp hnobody,
    hcount.symm.trans hentries⟩

end AddressPlan

end Multipath
