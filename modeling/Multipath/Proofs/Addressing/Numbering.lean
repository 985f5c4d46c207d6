import Mathlib.Data.List.Sigma
import Multipath.Network
import Multipath.Proofs.Topology.Graph

/-!
# The plan of a topology

`AddressPlan.assign` succeeds on every consistent topology, and its plan can be read off the list of
links (`exists_planned`): the interfaces of a node are loop-back and then its links in their order,
and the two numbers of a link say how many links its ends had before it.

`OnLink t u link` says that the interface `u` belongs to a numbered link.  It does not mention the
plan; that a plan puts an interface on its link is `Planned.exists_indices`, and that it gives the
interface the address of the link is `Planned.address`.
-/

namespace Multipath

variable {t : Topology} {p : AddressPlan} {v w a b : NodeId} {i n : ℕ}

/-- The links of a topology with their numbers. -/
abbrev Topology.numbered (t : Topology) : List (Edge × ℕ) :=
  t.edges.zipIdx

/-- The numbered links of a node. -/
def linksAt (links : List (Edge × ℕ)) (v : NodeId) : List (Edge × ℕ) :=
  links.filter fun link => link.1.1 = v ∨ link.1.2 = v

/-- The last byte of the address of `v` on one of its links. -/
def ownHost (v : NodeId) (e : Edge) : UInt32 :=
  if e.1 = v then 1 else 2

/-- The address of `v` on one of its links. -/
def ownAddress (v : NodeId) (link : Edge × ℕ) : InterfaceAddress :=
  AddressPlan.linkAddress link.2 (ownHost v link.1)

/-- The node at the other end of an edge of `v`. -/
def farEnd (v : NodeId) (e : Edge) : NodeId :=
  if e.1 = v then e.2 else e.1

theorem ownHost_le (v : NodeId) (e : Edge) : (ownHost v e).toNat ≤ 2 := by
  unfold ownHost
  split <;> decide

theorem ownHost_lt (v : NodeId) (e : Edge) : (ownHost v e).toNat < 2 ^ 8 :=
  Nat.lt_of_le_of_lt (ownHost_le v e) (by decide)

theorem eq_of_ownHost_eq {e : Edge} (hv : e.1 = v ∨ e.2 = v) (hw : e.1 = w ∨ e.2 = w)
    (h : ownHost v e = ownHost w e) : v = w := by
  unfold ownHost at h
  by_cases h1 : e.1 = v
  · by_cases h2 : e.1 = w
    · exact h1.symm.trans h2
    · rw [if_pos h1, if_neg h2] at h
      exact absurd h (by decide)
  · by_cases h2 : e.1 = w
    · rw [if_neg h1, if_pos h2] at h
      exact absurd h (by decide)
    · exact (hv.resolve_left h1).symm.trans (hw.resolve_left h2)

theorem mem_linksAt {link : Edge × ℕ} : link ∈ linksAt t.numbered v ↔
    t.edges[link.2]? = some link.1 ∧ (link.1.1 = v ∨ link.1.2 = v) := by
  simp [linksAt, List.mem_zipIdx_iff_getElem?]

theorem linksAt_append (links links' : List (Edge × ℕ)) (v : NodeId) :
    linksAt (links ++ links') v = linksAt links v ++ linksAt links' v :=
  List.filter_append ..

theorem linksAt_cons_of_mem {link : Edge × ℕ} {links : List (Edge × ℕ)}
    (h : link.1.1 = v ∨ link.1.2 = v) : linksAt (link :: links) v = link :: linksAt links v :=
  List.filter_cons_of_pos (by simpa using h)

theorem linksAt_cons_of_not_mem {link : Edge × ℕ} {links : List (Edge × ℕ)}
    (h : ¬ (link.1.1 = v ∨ link.1.2 = v)) : linksAt (link :: links) v = linksAt links v :=
  List.filter_cons_of_neg (by simpa using h)

/-- The other ends of the links at a node, link by link. -/
theorem incident_eq_map (t : Topology) (v : NodeId) :
    t.incident v = (linksAt t.numbered v).map fun link => farEnd v link.1 := by
  have hfst : t.edges = t.numbered.map Prod.fst := (List.zipIdx_map_fst 0 t.edges).symm
  rw [Topology.incident, hfst, List.filterMap_map]
  generalize t.numbered = links
  induction links with
  | nil => rfl
  | cons link links ih =>
      rw [List.filterMap_cons]
      by_cases h1 : link.1.1 = v
      · rw [linksAt_cons_of_mem (Or.inl h1), List.map_cons, ← ih]
        simp [farEnd, h1]
      · by_cases h2 : link.1.2 = v
        · rw [linksAt_cons_of_mem (Or.inr h2), List.map_cons, ← ih]
          simp [farEnd, h1, h2]
        · rw [linksAt_cons_of_not_mem (by simp [h1, h2]), ← ih]
          simp [h1, h2]

theorem length_linksAt (t : Topology) (v : NodeId) :
    (linksAt t.numbered v).length = (t.incident v).length := by
  rw [incident_eq_map, List.length_map]

namespace AddressPlan

/-- The number of the next interface of a node that has the given links. -/
def nextIndex (links : List (Edge × ℕ)) (v : NodeId) : UInt32 :=
  UInt32.ofNat ((linksAt links v).length + 1)

/-- The plan of `n` nodes with the given links. -/
structure Realizes (n : ℕ) (links : List (Edge × ℕ)) (p : AddressPlan) : Prop where
  size_interfaces : p.interfaces.size = n
  interfaces_eq : ∀ v : NodeId, v.toNat < n → p.interfaces[v.toNat]? =
    some (InterfaceAddress.loopback :: (linksAt links v).map (ownAddress v)).toArray
  size_indices : p.indices.size = links.length
  indices_eq : ∀ before link, before ++ [link] <+: links →
    p.indices[before.length]? = some (nextIndex before link.1.1, nextIndex before link.1.2)

theorem realizes_unwired : Realizes n [] (unwired n) := by
  refine ⟨by simp [unwired], ?_, rfl, ?_⟩
  · intro v hv
    simp [unwired, linksAt, hv]
  · intro before link h
    simp at h

theorem attach_eq_ok {ε : Type} {interfaces : Array (Array InterfaceAddress)}
    {own : Array InterfaceAddress} (h : interfaces[v.toNat]? = some own)
    (address : InterfaceAddress) :
    attach interfaces v address =
      (.ok (UInt32.ofNat own.size, interfaces.modify v.toNat (·.push address)) :
        Except (Failure ε) _) := by
  rw [attach, h]

theorem wire_eq_ok {ε : Type} {own own' : Array InterfaceAddress} (hne : a ≠ b)
    (ha : p.interfaces[a.toNat]? = some own) (hb : p.interfaces[b.toNat]? = some own') :
    wire p ((a, b), i) =
      (.ok ⟨p.indices.push (UInt32.ofNat own.size, UInt32.ofNat own'.size),
        (p.interfaces.modify a.toNat (·.push (linkAddress i 1))).modify b.toNat
          (·.push (linkAddress i 2))⟩ : Except (Failure ε) _) := by
  -- the second end is another node, so the first end has left its interfaces alone
  have hb' : (p.interfaces.modify a.toNat (·.push (linkAddress i 1)))[b.toNat]? = some own' := by
    rw [Array.getElem?_modify, if_neg (fun h => hne (UInt32.toNat_inj.mp h)), hb]
  rw [wire, attach_eq_ok ha]
  simp only [bind, Except.bind]
  rw [attach_eq_ok hb']
  rfl

/-- Wiring one more link. -/
theorem Realizes.exists_wire {ε : Type} {links : List (Edge × ℕ)} (hp : Realizes n links p)
    (hne : a ≠ b) (ha : a.toNat < n) (hb : b.toNat < n) :
    ∃ p', wire p ((a, b), i) = (.ok p' : Except (Failure ε) _) ∧
      Realizes n (links ++ [((a, b), i)]) p' := by
  refine ⟨_, wire_eq_ok hne (hp.interfaces_eq a ha) (hp.interfaces_eq b hb), ?_, ?_, ?_, ?_⟩
  · simpa using hp.size_interfaces
  · intro v hv
    simp only [Array.getElem?_modify, UInt32.toNat_inj, hp.interfaces_eq v hv, linksAt_append]
    -- only the two ends of the link get one more interface
    by_cases hbv : b = v
    · subst hbv
      rw [linksAt_cons_of_mem (Or.inr rfl)]
      simp [hne, linksAt, ownAddress, ownHost]
    · by_cases hav : a = v
      · subst hav
        rw [linksAt_cons_of_mem (Or.inl rfl)]
        simp [hbv, linksAt, ownAddress, ownHost]
      · rw [linksAt_cons_of_not_mem (by simp [hav, hbv])]
        simp [hav, hbv, linksAt]
  · simp [hp.size_indices]
  · -- the pair that is added belongs to the last link, and the others stay where they are
    intro before link hpre
    rcases List.prefix_concat_iff.mp hpre with heq | hpre
    · obtain ⟨rfl, hlink⟩ := List.append_inj' heq rfl
      obtain rfl : link = ((a, b), i) := by simpa using hlink
      rw [← hp.size_indices, Array.getElem?_push_size]
      simp [nextIndex]
    · have hlt : before.length < p.indices.size := by
        rw [hp.size_indices]
        exact length_lt_of_prefix_concat hpre
      rw [Array.getElem?_push_lt hlt, ← hp.indices_eq before link hpre,
        Array.getElem?_eq_getElem hlt]

theorem assign_total {ε : Type} (h : t.Consistent) :
    ∃ p, assign t = (.ok p : Except (Failure ε) _) ∧ Realizes t.size t.numbered p := by
  refine foldlM_total (Realizes t.size) realizes_unwired ?_
  rintro done ⟨⟨a, b⟩, i⟩ p hpre hp
  have he : (a, b) ∈ t.edges := by
    have hmem : ((a, b), i) ∈ t.numbered := hpre.subset (by simp)
    exact (List.mem_zipIdx' hmem).2 ▸ List.getElem_mem _
  exact hp.exists_wire (h.fst_ne_snd he) (h.fst_lt_size he) (h.inRange _ he)

end AddressPlan

/-- The plan `p` belongs to the topology `t`, which is consistent and has a name for every node. -/
structure Planned (t : Topology) (p : AddressPlan) : Prop where
  consistent : t.Consistent
  size_lt : t.size < 2 ^ 32
  realizes : p.Realizes t.size t.numbered

/-- **The plan of a consistent topology exists, and it is the one that its links determine.** -/
theorem exists_planned {ε : Type} (h : t.Consistent) (hn : t.size < 2 ^ 32) :
    ∃ p, AddressPlan.assign t = (.ok p : Except (Failure ε) _) ∧ Planned t p := by
  obtain ⟨p, hplan, hp⟩ := AddressPlan.assign_total (ε := ε) h
  exact ⟨p, hplan, h, hn, hp⟩

/-! ### Interfaces and their links -/

/-- The interface `u` belongs to the given link. -/
structure OnLink (t : Topology) (u : LinkEnd) (link : Edge × ℕ) : Prop where
  ne_zero : u.index ≠ 0
  slot : (linksAt t.numbered u.node)[u.index.toNat - 1]? = some link

theorem nodup_linksAt (t : Topology) (v : NodeId) : (linksAt t.numbered v).Nodup :=
  List.Nodup.filter _ (List.Nodup.of_map Prod.snd (List.nodup_zipIdx_map_snd t.edges))

namespace OnLink

variable {u w : LinkEnd} {link link' : Edge × ℕ}

theorem mem (h : OnLink t u link) : link ∈ linksAt t.numbered u.node :=
  List.mem_of_getElem? h.slot

theorem node_eq (h : OnLink t u link) : link.1.1 = u.node ∨ link.1.2 = u.node :=
  (mem_linksAt.mp h.mem).2

theorem link_unique (h : OnLink t u link) (h' : OnLink t u link') : link = link' :=
  Option.some.inj (h.slot.symm.trans h'.slot)

theorem toNat_index (h : OnLink t u link) : u.index.toNat = u.index.toNat - 1 + 1 := by
  have hne : u.index.toNat ≠ 0 := fun h0 => h.ne_zero (UInt32.toNat_inj.mp h0)
  omega

theorem unique (h : OnLink t u link) (h' : OnLink t w link) (hnode : u.node = w.node) :
    u = w := by
  obtain ⟨v, k⟩ := u
  obtain ⟨v', k'⟩ := w
  obtain rfl : v = v' := hnode
  have hlt := (List.getElem?_eq_some_iff.mp h.slot).1
  have heq := (List.getElem?_inj hlt (nodup_linksAt t v)).mp (h.slot.trans h'.slot.symm)
  have hk := h.toNat_index
  have hk' := h'.toNat_index
  simp only at heq hk hk'
  have hkk : k = k' := UInt32.toNat_inj.mp (by omega)
  rw [hkk]

end OnLink

section Planned

variable {u : LinkEnd} {link : Edge × ℕ}

/-- The number that the plan gives to a link at one of its ends. -/
theorem onLink_nextIndex (h : t.Consistent) (hn : t.size < 2 ^ 32) {before after : List (Edge × ℕ)}
    (hsplit : t.numbered = before ++ link :: after) (hlink : link.1.1 = v ∨ link.1.2 = v)
    (hv : v.toNat < t.size) : OnLink t ⟨v, AddressPlan.nextIndex before v⟩ link := by
  have hat : linksAt t.numbered v = linksAt before v ++ link :: linksAt after v := by
    rw [hsplit, linksAt_append, linksAt_cons_of_mem hlink]
  have hdegree : (linksAt before v).length + 1 < 2 ^ 32 := by
    have hlength := (length_linksAt t v).trans_lt (Topology.length_incident_lt h hv)
    rw [hat, List.length_append, List.length_cons] at hlength
    omega
  have hindex : (AddressPlan.nextIndex before v).toNat = (linksAt before v).length + 1 :=
    UInt32.toNat_ofNat_of_lt' hdegree
  constructor
  · intro h0
    have hzero : (AddressPlan.nextIndex before v).toNat = 0 := congrArg UInt32.toNat h0
    omega
  · simp only [hindex, hat]
    simp

namespace Planned

theorem interfaces_eq (hp : Planned t p) (hv : v.toNat < t.size) : p.interfaces[v.toNat]? =
    some (InterfaceAddress.loopback :: (linksAt t.numbered v).map (ownAddress v)).toArray :=
  hp.realizes.interfaces_eq v hv

theorem size_indices (hp : Planned t p) : p.indices.size = t.edges.length :=
  hp.realizes.size_indices.trans List.length_zipIdx

/-- The plan gives an interface the address of its link. -/
theorem address (hp : Planned t p) (hu : OnLink t u link) (hlt : u.node.toNat < t.size) :
    ∃ own, p.interfaces[u.node.toNat]? = some own ∧
      own[u.index.toNat]? = some (ownAddress u.node link) := by
  refine ⟨_, hp.interfaces_eq hlt, ?_⟩
  rw [hu.toNat_index]
  simp [hu.slot]

/-- Both numbers of a link are interfaces that belong to it. -/
theorem exists_indices (hp : Planned t p) (he : t.edges[i]? = some (a, b)) :
    ∃ ka kb, p.indices[i]? = some (ka, kb) ∧ OnLink t ⟨a, ka⟩ ((a, b), i) ∧
      OnLink t ⟨b, kb⟩ ((a, b), i) := by
  obtain ⟨hi, hei⟩ := List.getElem?_eq_some_iff.mp he
  have hmem : (a, b) ∈ t.edges := List.mem_of_getElem? he
  have hlt : i < t.numbered.length := by simpa using hi
  have hsplit : t.numbered = t.numbered.take i ++ ((a, b), i) :: t.numbered.drop (i + 1) := by
    conv_lhs => rw [← List.take_append_drop i t.numbered, List.drop_eq_getElem_cons hlt]
    simp [hei]
  have hpre : t.numbered.take i ++ [((a, b), i)] <+: t.numbered :=
    ⟨t.numbered.drop (i + 1), by rw [List.append_assoc, List.singleton_append, ← hsplit]⟩
  have hindices := hp.realizes.indices_eq _ _ hpre
  rw [List.length_take, Nat.min_eq_left hlt.le] at hindices
  have hc := hp.consistent
  exact ⟨_, _, hindices,
    onLink_nextIndex hc hp.size_lt hsplit (Or.inl rfl) (hc.fst_lt_size hmem),
    onLink_nextIndex hc hp.size_lt hsplit (Or.inr rfl) (hc.inRange _ hmem)⟩

end Planned

end Planned

end Multipath
