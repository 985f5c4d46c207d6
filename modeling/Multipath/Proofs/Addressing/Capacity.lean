import Mathlib.Data.List.ProdSigma
import Multipath.Proofs.Addressing.Slots

/-!
# The capacity of a plan

A link is a network of 256 addresses, and the networks are numbered in 32 bits, so they start over
after `2 ^ 24` links (`address_linkAddress_mod`).  Up to there all addresses differ; beyond it the first
link and the link with number `2 ^ 24` share theirs.  Long before, at the link with number `7667712`,
the addresses enter those of loop-back.  Both bounds are exact (`capacity_of_build`).
-/

namespace Multipath

variable {t : Topology} {p : AddressPlan} {v w : NodeId} {i j : ℕ} {ip : Ipv4} {host : UInt32}

namespace AddressPlan

/-- The networks start over after `2 ^ 24` links. -/
theorem address_linkAddress_mod (i : ℕ) (hhost : host.toNat < 2 ^ 8) :
    (linkAddress (i % 2 ^ 24) host).address = (linkAddress i host).address := by
  have hbits : (linkAddress (i % 2 ^ 24) host).address.bits =
      (linkAddress i host).address.bits := by
    rw [← UInt32.toNat_inj, toNat_linkAddress hhost, toNat_linkAddress hhost]
    omega
  exact congrArg Ipv4.mk hbits

/-- The two addresses of each of the first `m` links. -/
def linkAddresses (m : ℕ) : List Ipv4 :=
  (List.range m ×ˢ [1, 2]).map fun (i, host) => (linkAddress i host).address

theorem toNat_lt_of_mem (hhost : host ∈ [(1 : UInt32), 2]) : host.toNat < 2 ^ 8 := by
  rcases List.mem_pair.mp hhost with rfl | rfl <;> decide

theorem mem_linkAddresses {m : ℕ} : ip ∈ linkAddresses m ↔
    ∃ i < m, ∃ host ∈ [(1 : UInt32), 2], (linkAddress i host).address = ip := by
  simp only [linkAddresses, List.mem_map, Prod.exists, List.mem_product, List.mem_range]
  constructor
  · rintro ⟨i, host, ⟨hi, hhost⟩, hip⟩
    exact ⟨i, hi, host, hhost, hip⟩
  · rintro ⟨i, hi, host, hhost, hip⟩
    exact ⟨i, host, ⟨hi, hhost⟩, hip⟩

theorem length_linkAddresses (m : ℕ) : (linkAddresses m).length = 2 * m := by
  rw [linkAddresses, List.length_map, List.length_product, List.length_range, Nat.mul_comm]
  rfl

theorem nodup_linkAddresses {m : ℕ} (hm : m ≤ 2 ^ 24) : (linkAddresses m).Nodup := by
  refine List.Nodup.map_on ?_ (List.nodup_range.product (by decide))
  rintro ⟨i, host⟩ hi ⟨j, host'⟩ hj heq
  obtain ⟨hi, hhost⟩ := List.mem_product.mp hi
  obtain ⟨hj, hhost'⟩ := List.mem_product.mp hj
  rw [List.mem_range] at hi hj
  obtain ⟨rfl, rfl⟩ := linkAddress_inj (hi.trans_le hm) (hj.trans_le hm) (toNat_lt_of_mem hhost)
    (toNat_lt_of_mem hhost') heq
  rfl

/-- However many links there are, their addresses are those of at most `2 ^ 24` links. -/
theorem mem_linkAddresses_min {m : ℕ} : ip ∈ linkAddresses (min m (2 ^ 24)) ↔
    ip ∈ linkAddresses m := by
  rw [mem_linkAddresses, mem_linkAddresses]
  constructor
  · rintro ⟨i, hi, hip⟩
    exact ⟨i, hi.trans_le (Nat.min_le_left _ _), hip⟩
  · rintro ⟨i, hi, host, hhost, rfl⟩
    have hlt : i % 2 ^ 24 < 2 ^ 24 := Nat.mod_lt _ (by decide)
    have hle : i % 2 ^ 24 ≤ i := Nat.mod_le _ _
    exact ⟨i % 2 ^ 24, by omega, host, hhost, address_linkAddress_mod i (toNat_lt_of_mem hhost)⟩

end AddressPlan

open AddressPlan

namespace Planned

variable (hp : Planned t p)
include hp

/-- The link addresses in a plan are the two addresses of each link. -/
theorem exists_isLinkAddress_iff :
    (∃ v, p.IsLinkAddress v ip) ↔ ip ∈ linkAddresses t.edges.length := by
  rw [mem_linkAddresses]
  constructor
  · rintro ⟨v, hv⟩
    obtain ⟨link, hlt, rfl⟩ := hp.exists_ownAddress hv
    refine ⟨link.2, hlt, ownHost v link.1, ?_, rfl⟩
    unfold ownHost
    split <;> simp
  · rintro ⟨i, hi, host, hhost, rfl⟩
    have he : t.edges[i]? = some t.edges[i] := List.getElem?_eq_getElem hi
    have hmem : t.edges[i] ∈ t.edges := List.getElem_mem hi
    have hne : t.edges[i].1 ≠ t.edges[i].2 := hp.consistent.fst_ne_snd hmem
    rcases List.mem_pair.mp hhost with rfl | rfl
    · refine ⟨t.edges[i].1, (hp.isLinkAddress_iff (hp.consistent.fst_lt_size hmem)).mpr ?_⟩
      exact ⟨(t.edges[i], i), mem_linksAt.mpr ⟨he, Or.inl rfl⟩, by simp [ownAddress, ownHost]⟩
    · refine ⟨t.edges[i].2, (hp.isLinkAddress_iff (hp.consistent.inRange _ hmem)).mpr ?_⟩
      exact ⟨(t.edges[i], i), mem_linksAt.mpr ⟨he, Or.inr rfl⟩, by simp [ownAddress, ownHost, hne]⟩

/-- The resolver knows two addresses of each link, as long as there are enough networks. -/
theorem size_resolver : p.resolver.size = 2 * min t.edges.length (2 ^ 24) := by
  rw [← length_linkAddresses]
  refine Resolver.size_ofEntries (nodup_linkAddresses (Nat.min_le_right _ _)) fun ip => ?_
  have hle : p.interfaces.size ≤ 2 ^ 32 := hp.realizes.size_interfaces.trans_le hp.size_lt.le
  simp only [mem_linkAddresses_min, ← hp.exists_isLinkAddress_iff, mem_linkOwners hle]

/-- Every link has a slot with its first address. -/
theorem exists_first_slot (hi : i < t.edges.length) : ∃ u, OnLink t u (t.edges[i], i) ∧
    p.Carries u.node u.index.toNat (linkAddress i 1) := by
  obtain ⟨k, -, -, hu, -⟩ := hp.exists_indices (List.getElem?_eq_getElem hi)
  refine ⟨_, hu, ?_⟩
  have hcarries := hp.carries_of_onLink hu
  rwa [ownAddress, ownHost, if_pos rfl] at hcarries

/-- Up to `2 ^ 24` links, an address is in one slot only. -/
theorem slot_unique {k l : ℕ} {a b : InterfaceAddress} (hm : t.edges.length ≤ 2 ^ 24) (hk : 1 ≤ k)
    (hl : 1 ≤ l) (ha : p.Carries v k a) (hb : p.Carries w l b) (heq : a.address = b.address) :
    v = w ∧ k = l := by
  obtain ⟨k, rfl⟩ := Nat.exists_eq_add_of_le' hk
  obtain ⟨l, rfl⟩ := Nat.exists_eq_add_of_le' hl
  obtain ⟨link, hlink, rfl⟩ := hp.carries_succ_iff.mp ha
  obtain ⟨link', hlink', rfl⟩ := hp.carries_succ_iff.mp hb
  obtain ⟨rfl, rfl⟩ := ownAddress_inj hm (List.mem_of_getElem? hlink)
    (List.mem_of_getElem? hlink') heq
  have hlt := (List.getElem?_eq_some_iff.mp hlink).1
  have hplace := (List.getElem?_inj hlt (nodup_linksAt t v)).mp (hlink.trans hlink'.symm)
  exact ⟨rfl, congrArg (· + 1) hplace⟩

/-- Beyond `2 ^ 24` links, the first and the last of so many share their addresses. -/
theorem exists_shared (hm : 2 ^ 24 < t.edges.length) : ∃ v k a w l b, 1 ≤ k ∧ 1 ≤ l ∧
    p.Carries v k a ∧ p.Carries w l b ∧ a.address = b.address ∧ ¬ (v = w ∧ k = l) := by
  obtain ⟨u, hu, ha⟩ := hp.exists_first_slot (i := 0) (Nat.zero_lt_of_lt hm)
  obtain ⟨w, hw, hb⟩ := hp.exists_first_slot hm
  refine ⟨_, _, _, _, _, _, hu.one_le, hw.one_le, ha, hb, ?_, ?_⟩
  · have hshared : (linkAddress (2 ^ 24 % 2 ^ 24) 1).address = (linkAddress (2 ^ 24) 1).address :=
      address_linkAddress_mod _ (by decide)
    rwa [Nat.mod_self] at hshared
  · rintro ⟨hnode, hindex⟩
    obtain rfl : u = w := by
      cases u
      cases w
      simp only [LinkEnd.mk.injEq]
      exact ⟨hnode, UInt32.toNat_inj.mp hindex⟩
    have hnumber : 0 = 2 ^ 24 := congrArg Prod.snd (hu.link_unique hw)
    exact absurd hnumber (by decide)

end Planned

/-- **The capacity of the plan.**  For a built topology with `m` edges:

* the links have different addresses at all their ends if and only if `m` is at most `2 ^ 24`;
* the resolver knows two addresses for each link, up to this number of links, and then answers the
  owner of each address and nothing else;
* all addresses of links are unicast if and only if `m` is at most `7667712`;
* none of them is the placeholder of a probe, whatever `m` is. -/
theorem capacity_of_build {ε : Type} {numNodes : UInt64} {edges : List Edge}
    {endpoints : List NodeId} (h : Topology.build numNodes edges endpoints = .ok t)
    (hn : numNodes.toNat < 2 ^ 32) :
    ∃ p, AddressPlan.assign t = (.ok p : Except (Failure ε) AddressPlan) ∧
      ((∀ v k a w l b, 1 ≤ k → 1 ≤ l → p.Carries v k a → p.Carries w l b →
        a.address = b.address → v = w ∧ k = l) ↔ edges.length ≤ 2 ^ 24) ∧
      p.resolver.size = 2 * min edges.length (2 ^ 24) ∧
      (edges.length ≤ 2 ^ 24 →
        (∀ v k a, 1 ≤ k → p.Carries v k a → p.resolver.resolve a.address = .ok v) ∧
        ∀ ip, (∀ v k a, 1 ≤ k → p.Carries v k a → a.address ≠ ip) →
          p.resolver.resolve ip = .error (.unknownAddress ip)) ∧
      ((∀ v k a, 1 ≤ k → p.Carries v k a →
        a.address.isLoopback = false ∧ a.address.isMulticast = false) ↔
          edges.length ≤ 7667712) ∧
      ∀ v k a, 1 ≤ k → p.Carries v k a → a.address ≠ Ipv4.ofOctets 102 102 102 102 := by
  have hc := Topology.consistent_of_build h
  have hlt : t.size < 2 ^ 32 := (Topology.size_of_build h).trans_lt hn
  obtain ⟨p, hplan, hp⟩ := exists_planned (ε := ε) hc hlt
  have hlink : ∀ {v k a}, 1 ≤ k → p.Carries v k a → p.IsLinkAddress v a.address := by
    intro v k a hk ha
    obtain ⟨k, rfl⟩ := Nat.exists_eq_add_of_le' hk
    exact isLinkAddress_iff_carries.mpr ⟨k, a, ha, rfl⟩
  rw [← Topology.length_edges_of_build h]
  refine ⟨p, hplan, ⟨?_, ?_⟩, hp.size_resolver, fun hm => ⟨?_, ?_⟩, ⟨?_, ?_⟩, ?_⟩
  · intro hdistinct
    by_contra hm
    obtain ⟨v, k, a, w, l, b, hk, hl, ha, hb, heq, hne⟩ := hp.exists_shared (Nat.not_le.mp hm)
    exact hne (hdistinct v k a w l b hk hl ha hb heq)
  · intro hm v k a w l b hk hl ha hb
    exact hp.slot_unique hm hk hl ha hb
  · intro v k a hk ha
    exact (hp.resolve_iff hm).mpr (hlink hk ha)
  · intro ip hip
    refine Resolver.resolve_eq_error fun v hv => ?_
    obtain ⟨k, a, ha, heq⟩ := isLinkAddress_iff_carries.mp ((hp.resolve_iff hm).mp hv)
    exact hip v (k + 1) a (Nat.le_add_left 1 k) ha heq
  · intro hunicast
    by_contra hm
    obtain ⟨u, hu, hcarries⟩ := hp.exists_first_slot (Nat.not_le.mp hm)
    have hloop := (hunicast _ _ _ hu.one_le hcarries).1
    exact absurd hloop (by decide)
  · intro hm v k a hk ha
    exact ⟨hp.isLoopback_eq_false (hlink hk ha) hm, hp.isMulticast_eq_false (hlink hk ha) hm⟩
  · exact fun v k a hk ha => hp.ne_probeSource (hlink hk ha)

/-- A triangle: six addresses, each in one slot. -/
theorem capacity_of_triangle :
    ∃ t p, Topology.build 3 [(1, 2), (0, 1), (2, 0)] = .ok t ∧ (3 : UInt64).toNat < 2 ^ 32 ∧
      AddressPlan.assign t = (.ok p : Except (Failure Unit) AddressPlan) ∧
      p.resolver.size = 6 ∧
      (∀ v k a w l b, 1 ≤ k → 1 ≤ l → p.Carries v k a → p.Carries w l b →
        a.address = b.address → v = w ∧ k = l) ∧
      (∀ v k a, 1 ≤ k → p.Carries v k a → a.address.isLoopback = false) ∧
      p.Carries 2 1 ⟨Ipv4.ofOctets 10 0 1 2, 24⟩ ∧
      p.resolver.resolve (Ipv4.ofOctets 10 0 1 2) = .ok 2 := by
  obtain ⟨t, p, ht, hplan, own, hown, hat⟩ : ∃ t p,
      Topology.build 3 [(1, 2), (0, 1), (2, 0)] = .ok t ∧
      AddressPlan.assign t = (.ok p : Except (Failure Unit) AddressPlan) ∧
      p.Carries 2 1 ⟨Ipv4.ofOctets 10 0 1 2, 24⟩ := ⟨_, _, rfl, rfl, _, rfl, rfl⟩
  obtain ⟨p', hplan', hdistinct, hsize, hresolve, hunicast, -⟩ :=
    capacity_of_build (ε := Unit) ht (by decide)
  obtain rfl : p = p' := Except.ok.inj (hplan.symm.trans hplan')
  exact ⟨t, p, ht, by decide, hplan, hsize, hdistinct.mpr (by decide),
    fun v k a hk ha => (hunicast.mpr (by decide) v k a hk ha).1, ⟨own, hown, hat⟩,
    (hresolve (by decide)).1 _ _ _ (by decide) ⟨own, hown, hat⟩⟩

end Multipath
