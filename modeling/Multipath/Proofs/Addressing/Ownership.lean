import Multipath.Proofs.Addressing.LinkAddress
import Multipath.Proofs.Addressing.Numbering

/-!
# Who owns the address of a link

A resolver answers with the last of its entries for an address
(`Resolver.resolve_ofEntries_iff_lastFor`); where no address has two owners it answers exactly what
its entries say (`Resolver.resolve_ofEntries_iff`), so that their order does not matter
(`Resolver.ofEntries_of_perm`).  In the plan of a topology
with at most `2 ^ 24` links every address of a link has one owner, so the resolver of the plan
answers `v` exactly for the link addresses of `v` (`Planned.resolve_iff`).
-/

namespace Multipath

variable {t : Topology} {p : AddressPlan} {v w : NodeId} {ip : Ipv4}

/-! ### Resolvers -/

namespace Resolver

variable {entries : List (Ipv4 × NodeId)}

theorem getElem?_owners_concat (entries : List (Ipv4 × NodeId)) (key ip : Ipv4) (v : NodeId) :
    (ofEntries (entries ++ [(key, v)])).owners[ip]? =
      if key = ip then some v else (ofEntries entries).owners[ip]? := by
  simp only [ofEntries, Std.ExtTreeMap.ofList_eq_insertMany_empty,
    Std.ExtTreeMap.insertMany_append, Std.ExtTreeMap.insertMany_list_singleton,
    Std.ExtTreeMap.getElem?_insert, Std.LawfulEqCmp.compare_eq_iff_eq]

theorem resolve_eq_ok {r : Resolver} : r.resolve ip = .ok v ↔ r.owners[ip]? = some v := by
  unfold resolve
  cases r.owners[ip]? with
  | none => simp
  | some w => simp

/-- An address that belongs to nobody is unknown. -/
theorem resolve_eq_error {r : Resolver} (h : ∀ v, r.resolve ip ≠ .ok v) :
    r.resolve ip = .error (.unknownAddress ip) := by
  unfold resolve at h ⊢
  cases howner : r.owners[ip]? with
  | none => rfl
  | some v => exact absurd (by rw [howner]) (h v)

theorem mem_owners_ofEntries : ip ∈ (ofEntries entries).owners ↔ ∃ v, (ip, v) ∈ entries := by
  rw [ofEntries, Std.ExtTreeMap.mem_ofList, List.contains_iff_mem]
  simp

/-- The size of a resolver is the number of the addresses in its entries, whatever their owners. -/
theorem size_ofEntries {addresses : List Ipv4} (hnodup : addresses.Nodup)
    (hmem : ∀ ip, ip ∈ addresses ↔ ∃ v, (ip, v) ∈ entries) :
    (ofEntries entries).size = addresses.length := by
  rw [size, ← Std.ExtTreeMap.length_keys]
  refine List.Perm.length_eq ?_
  rw [List.perm_ext_iff_of_nodup Std.ExtTreeMap.nodup_keys hnodup]
  intro ip
  rw [Std.ExtTreeMap.mem_keys, mem_owners_ofEntries, hmem]

/-- Of all entries for `ip`, the last has the owner `v`. -/
def LastFor (entries : List (Ipv4 × NodeId)) (ip : Ipv4) (v : NodeId) : Prop :=
  ∃ before after, entries = before ++ (ip, v) :: after ∧ ∀ w, (ip, w) ∉ after

theorem lastFor_concat (entries : List (Ipv4 × NodeId)) (key ip : Ipv4) (v w : NodeId) :
    LastFor (entries ++ [(key, w)]) ip v ↔ if key = ip then w = v else LastFor entries ip v := by
  constructor
  · rintro ⟨before, after, heq, hafter⟩
    rcases List.eq_nil_or_concat after with rfl | ⟨after, e, rfl⟩
    · obtain ⟨-, hlast⟩ := List.append_inj' heq rfl
      obtain ⟨rfl, rfl⟩ := Prod.mk.inj (List.singleton_inj.mp hlast)
      rw [if_pos rfl]
    · rw [List.concat_eq_append, ← List.cons_append, ← List.append_assoc] at heq
      obtain ⟨rfl, hlast⟩ := List.append_inj' heq rfl
      obtain rfl := List.singleton_inj.mp hlast
      have hip : key ≠ ip := by
        rintro rfl
        exact hafter w (by simp)
      rw [if_neg hip]
      exact ⟨before, after, rfl, fun u hu => hafter u (by simp [hu])⟩
  · split
    · next hip =>
        rintro rfl
        exact ⟨entries, [], by rw [hip], by simp⟩
    · next hip =>
        rintro ⟨before, after, rfl, hafter⟩
        refine ⟨before, after ++ [(key, w)], by simp, fun u hu => ?_⟩
        rcases List.mem_append.mp hu with hu | hu
        · exact hafter u hu
        · exact hip (Prod.mk.inj (List.mem_singleton.mp hu)).1.symm

/-- The last entry for an address counts. -/
theorem resolve_ofEntries_iff_lastFor :
    (ofEntries entries).resolve ip = .ok v ↔ LastFor entries ip v := by
  rw [resolve_eq_ok]
  induction entries using List.reverseRecOn with
  | nil => simp [ofEntries, LastFor]
  | append_singleton entries e ih =>
      obtain ⟨key, w⟩ := e
      rw [getElem?_owners_concat, lastFor_concat]
      split
      · rw [Option.some.injEq]
      · exact ih

/-- Without competing entries, a resolver answers what its entries say. -/
theorem resolve_ofEntries_iff (h : ∀ v w, (ip, v) ∈ entries → (ip, w) ∈ entries → v = w) :
    (ofEntries entries).resolve ip = .ok v ↔ (ip, v) ∈ entries := by
  rw [resolve_eq_ok]
  induction entries using List.reverseRecOn with
  | nil => simp [ofEntries]
  | append_singleton entries e ih =>
      have hih := ih fun v w hv hw => h v w (by simp [hv]) (by simp [hw])
      obtain ⟨key, w⟩ := e
      rw [getElem?_owners_concat]
      by_cases hip : key = ip
      · subst hip
        rw [if_pos rfl, Option.some.injEq]
        constructor
        · rintro rfl
          simp
        · intro hv
          exact h w v (by simp) hv
      · rw [if_neg hip, hih]
        simp [Ne.symm hip]

theorem mem_entries {r : Resolver} : (ip, v) ∈ r.entries ↔ r.owners[ip]? = some v :=
  Std.ExtTreeMap.mem_toList_iff_getElem?_eq_some

theorem nodup_addresses (r : Resolver) : (r.entries.map Prod.fst).Nodup := by
  refine List.pairwise_map.mpr (r.owners.distinct_keys_toList.imp fun hne heq => hne ?_)
  exact Std.LawfulEqCmp.compare_eq_iff_eq.mpr heq

/-- A resolver is made of its entries, in whatever order they are given. -/
theorem ofEntries_of_perm {r : Resolver} (h : entries.Perm r.entries) : ofEntries entries = r := by
  refine eq_of_owners fun ip => Option.ext fun v => ?_
  rw [← resolve_eq_ok, resolve_ofEntries_iff, h.mem_iff, mem_entries]
  -- an address has one owner in `r`, hence one in the given entries
  intro v w hv hw
  rw [h.mem_iff, mem_entries] at hv hw
  exact Option.some.inj (hv.symm.trans hw)

end Resolver

/-! ### The addresses in a plan -/

namespace AddressPlan

/-- Some link of `v` has the address `ip`. -/
def IsLinkAddress (p : AddressPlan) (v : NodeId) (ip : Ipv4) : Prop :=
  ∃ own, p.interfaces[v.toNat]? = some own ∧ ∃ a ∈ own.toList.drop 1, a.address = ip

theorem mem_linkOwners (hsize : p.interfaces.size ≤ 2 ^ 32) :
    (ip, v) ∈ p.linkOwners ↔ p.IsLinkAddress v ip := by
  rw [linkOwners, List.mem_flatMap]
  constructor
  · rintro ⟨⟨own, node⟩, hmem, hentry⟩
    obtain ⟨a, ha, heq⟩ := List.mem_map.mp hentry
    obtain ⟨rfl, rfl⟩ := Prod.mk.inj heq
    have hown : p.interfaces[node]? = some own := by
      simpa using List.mem_zipIdx_iff_getElem?.mp hmem
    have hlt : node < 2 ^ 32 := ((Array.getElem?_eq_some_iff.mp hown).1).trans_le hsize
    exact ⟨own, by rwa [UInt32.toNat_ofNat_of_lt' hlt], a, ha, rfl⟩
  · rintro ⟨own, hown, a, ha, rfl⟩
    refine ⟨(own, v.toNat), List.mem_zipIdx_iff_getElem?.mpr (by simpa using hown), ?_⟩
    exact List.mem_map.mpr ⟨a, ha, by simp⟩

end AddressPlan

/-- Up to `2 ^ 24` links, no address belongs to two ends of links. -/
theorem ownAddress_inj (hm : t.edges.length ≤ 2 ^ 24) {link link' : Edge × ℕ}
    (hv : link ∈ linksAt t.numbered v) (hw : link' ∈ linksAt t.numbered w)
    (h : (ownAddress v link).address = (ownAddress w link').address) : link = link' ∧ v = w := by
  obtain ⟨hlink, hatv⟩ := mem_linksAt.mp hv
  obtain ⟨hlink', hatw⟩ := mem_linksAt.mp hw
  have hlt := (List.getElem?_eq_some_iff.mp hlink).1
  have hlt' := (List.getElem?_eq_some_iff.mp hlink').1
  obtain ⟨hnumber, hhosts⟩ :=
    AddressPlan.linkAddress_inj (hlt.trans_le hm) (hlt'.trans_le hm) (ownHost_lt _ _)
      (ownHost_lt _ _) h
  have hedge : link.1 = link'.1 := Option.some.inj (by rw [← hlink, ← hlink', hnumber])
  rw [← hedge] at hatw hhosts
  exact ⟨Prod.ext hedge hnumber, eq_of_ownHost_eq hatv hatw hhosts⟩

namespace Planned

theorem isLinkAddress_iff (hp : Planned t p) (hv : v.toNat < t.size) :
    p.IsLinkAddress v ip ↔ ∃ link ∈ linksAt t.numbered v, (ownAddress v link).address = ip := by
  simp [AddressPlan.IsLinkAddress, hp.interfaces_eq hv]

theorem lt_of_isLinkAddress (hp : Planned t p) (h : p.IsLinkAddress v ip) : v.toNat < t.size := by
  obtain ⟨own, hown, -⟩ := h
  exact hp.realizes.size_interfaces ▸ (Array.getElem?_eq_some_iff.mp hown).1

theorem owner_unique (hp : Planned t p) (hm : t.edges.length ≤ 2 ^ 24)
    (hv : p.IsLinkAddress v ip) (hw : p.IsLinkAddress w ip) : v = w := by
  obtain ⟨link, hlink, hip⟩ := (hp.isLinkAddress_iff (hp.lt_of_isLinkAddress hv)).mp hv
  obtain ⟨link', hlink', hip'⟩ := (hp.isLinkAddress_iff (hp.lt_of_isLinkAddress hw)).mp hw
  exact (ownAddress_inj hm hlink hlink' (hip.trans hip'.symm)).2

/-- **The resolver of a plan knows exactly the addresses of the links.** -/
theorem resolve_iff (hp : Planned t p) (hm : t.edges.length ≤ 2 ^ 24) :
    p.resolver.resolve ip = .ok v ↔ p.IsLinkAddress v ip := by
  have hmem : ∀ {v}, (ip, v) ∈ p.linkOwners ↔ p.IsLinkAddress v ip :=
    fun {v} => AddressPlan.mem_linkOwners (hp.realizes.size_interfaces.trans_le hp.size_lt.le)
  rw [AddressPlan.resolver, Resolver.resolve_ofEntries_iff, hmem]
  intro v w hv hw
  exact hp.owner_unique hm (hmem.mp hv) (hmem.mp hw)

/-! ### Addresses that routing treats apart -/

section Unicast

open AddressPlan

variable (hp : Planned t p) (hip : p.IsLinkAddress v ip)
include hp hip

theorem exists_ownAddress : ∃ link : Edge × ℕ, link.2 < t.edges.length ∧
    (ownAddress v link).address = ip := by
  obtain ⟨link, hlink, hlinkip⟩ := (hp.isLinkAddress_iff (hp.lt_of_isLinkAddress hip)).mp hip
  exact ⟨link, (List.getElem?_eq_some_iff.mp (mem_linksAt.mp hlink).1).1, hlinkip⟩

theorem isLoopback_eq_false (hm : t.edges.length ≤ unicastLinks) : ip.isLoopback = false := by
  obtain ⟨link, hlt, rfl⟩ := hp.exists_ownAddress hip
  exact isLoopback_linkAddress (hlt.trans_le hm) (ownHost_lt _ _)

theorem isMulticast_eq_false (hm : t.edges.length ≤ unicastLinks) : ip.isMulticast = false := by
  obtain ⟨link, hlt, rfl⟩ := hp.exists_ownAddress hip
  exact isMulticast_linkAddress (hlt.trans_le hm) (ownHost_lt _ _)

theorem ne_loopback (hm : t.edges.length ≤ unicastLinks) : ip ≠ Ipv4.loopback := by
  obtain ⟨link, hlt, rfl⟩ := hp.exists_ownAddress hip
  exact linkAddress_ne_loopback (hlt.trans_le hm) (ownHost_lt _ _)

theorem ne_probeSource : ip ≠ Ipv4Header.probeSource := by
  obtain ⟨link, -, rfl⟩ := hp.exists_ownAddress hip
  exact linkAddress_ne_probeSource (Nat.lt_of_le_of_lt (ownHost_le _ _) (by decide))

end Unicast

end Planned

end Multipath
