import Multipath.Proofs.Addressing.Numbering

/-!
# The wiring of a network

Two interfaces are joined if they are the two sides of a link under the given interface numbers
(`Joined`).  If the numbers come from the plan of the topology, every interface is joined to at most
one other (`Joined.unique`), and the wiring table is nothing but this relation
(`getElem?_wire_iff`).
-/

namespace Multipath

variable {t : Topology} {p : AddressPlan} {u w w' : LinkEnd} {v y a b : NodeId} {k : UInt32}
variable {side : Edge × (UInt32 × UInt32)} {indices : Array (UInt32 × UInt32)}

/-- The two sides of an edge, given the numbers of its interfaces. -/
def Ends (side : Edge × (UInt32 × UInt32)) (u w : LinkEnd) : Prop :=
  u = ⟨side.1.1, side.2.1⟩ ∧ w = ⟨side.1.2, side.2.2⟩ ∨
    u = ⟨side.1.2, side.2.2⟩ ∧ w = ⟨side.1.1, side.2.1⟩

/-- The interfaces `u` and `w` are the two sides of a link. -/
def Joined (t : Topology) (indices : Array (UInt32 × UInt32)) (u w : LinkEnd) : Prop :=
  ∃ side ∈ t.edges.zip indices.toList, Ends side u w

theorem Ends.symm (h : Ends side u w) : Ends side w u := by
  rcases h with ⟨hu, hw⟩ | ⟨hu, hw⟩
  · exact Or.inr ⟨hw, hu⟩
  · exact Or.inl ⟨hw, hu⟩

namespace Joined

theorem symm (h : Joined t indices u w) : Joined t indices w u := by
  obtain ⟨side, hmem, hends⟩ := h
  exact ⟨side, hmem, hends.symm⟩

theorem adj (h : t.Consistent) (hj : Joined t indices u w) : t.graph.Adj u.node w.node := by
  obtain ⟨⟨e, numbers⟩, hmem, hends⟩ := hj
  have he : e ∈ t.edges := (List.of_mem_zip hmem).1
  rcases hends with ⟨rfl, rfl⟩ | ⟨rfl, rfl⟩
  · exact h.adj_iff.mpr (Or.inl he)
  · exact h.adj_iff.mpr (Or.inr he)

end Joined

theorem exists_joined (h : t.Consistent) (hsize : indices.size = t.edges.length)
    (hadj : t.graph.Adj a b) : ∃ k k', Joined t indices ⟨a, k⟩ ⟨b, k'⟩ := by
  have hside : ∀ e ∈ t.edges, ∃ numbers, (e, numbers) ∈ t.edges.zip indices.toList := by
    intro e he
    have hfst : (t.edges.zip indices.toList).map Prod.fst = t.edges :=
      List.map_fst_zip (by simp [hsize])
    obtain ⟨⟨e', numbers⟩, hmem, rfl⟩ := List.mem_map.mp (hfst ▸ he)
    exact ⟨numbers, hmem⟩
  rcases h.adj_iff.mp hadj with he | he
  · obtain ⟨numbers, hmem⟩ := hside _ he
    exact ⟨_, _, _, hmem, Or.inl ⟨rfl, rfl⟩⟩
  · obtain ⟨numbers, hmem⟩ := hside _ he
    exact ⟨_, _, _, hmem, Or.inr ⟨rfl, rfl⟩⟩

/-! ### The numbers of a plan -/

section Plan

variable (hp : Planned t p)
include hp

/-- Joined interfaces are on one link. -/
theorem Joined.exists_onLink (hj : Joined t p.indices u w) :
    ∃ link, OnLink t u link ∧ OnLink t w link := by
  obtain ⟨⟨⟨a, b⟩, numbers⟩, hmem, hends⟩ := hj
  obtain ⟨i, hi⟩ := List.mem_iff_getElem?.mp hmem
  obtain ⟨he, hnumbers⟩ := List.getElem?_zip_eq_some.mp hi
  obtain ⟨ka, kb, hindices, ha, hb⟩ := hp.exists_indices he
  obtain rfl : numbers = (ka, kb) := by
    rw [Array.getElem?_toList, hindices] at hnumbers
    exact (Option.some.inj hnumbers).symm
  rcases hends with ⟨rfl, rfl⟩ | ⟨rfl, rfl⟩
  · exact ⟨_, ha, hb⟩
  · exact ⟨_, hb, ha⟩

/-- An interface is joined to at most one other. -/
theorem Joined.unique (hj : Joined t p.indices u w) (hj' : Joined t p.indices u w') : w = w' := by
  obtain ⟨link, hu, hw⟩ := hj.exists_onLink hp
  obtain ⟨link', hu', hw'⟩ := hj'.exists_onLink hp
  obtain rfl := hu.link_unique hu'
  refine hw.unique hw' ?_
  -- both are the end of the link that is not at `u`
  have hne : w.node ≠ u.node := (hj.adj hp.consistent).ne'
  have hne' : w'.node ≠ u.node := (hj'.adj hp.consistent).ne'
  rcases hu.node_eq with hu | hu
  · have hother : link.1.2 = w.node := hw.node_eq.resolve_left fun hfst => hne (hfst ▸ hu)
    have hother' : link.1.2 = w'.node := hw'.node_eq.resolve_left fun hfst => hne' (hfst ▸ hu)
    exact hother.symm.trans hother'
  · have hother : link.1.1 = w.node := hw.node_eq.resolve_right fun hsnd => hne (hsnd ▸ hu)
    have hother' : link.1.1 = w'.node := hw'.node_eq.resolve_right fun hsnd => hne' (hsnd ▸ hu)
    exact hother.symm.trans hother'

end Plan

/-! ### The wiring table -/

theorem getElem?_join (wiring : Std.HashMap LinkEnd LinkEnd) (side : Edge × (UInt32 × UInt32))
    (hne : side.1.1 ≠ side.1.2) :
    (Network.join wiring side)[u]? = some w ↔
      Ends side u w ∨ (∀ w', ¬ Ends side u w') ∧ wiring[u]? = some w := by
  obtain ⟨⟨a, b⟩, ka, kb⟩ := side
  have hab : (⟨b, kb⟩ : LinkEnd) ≠ ⟨a, ka⟩ := fun h => hne (congrArg LinkEnd.node h).symm
  simp only [Network.join, Std.HashMap.getElem?_insert, beq_iff_eq]
  -- the entry of the second end is written last
  by_cases hb : ⟨b, kb⟩ = u
  · subst hb
    rw [if_pos rfl, Option.some.injEq]
    constructor
    · rintro rfl
      exact Or.inl (Or.inr ⟨rfl, rfl⟩)
    · rintro ((⟨hu, -⟩ | ⟨-, rfl⟩) | ⟨hout, -⟩)
      · exact absurd hu hab
      · rfl
      · exact absurd (Or.inr ⟨rfl, rfl⟩) (hout ⟨a, ka⟩)
  · by_cases ha : ⟨a, ka⟩ = u
    · subst ha
      rw [if_neg hb, if_pos rfl, Option.some.injEq]
      constructor
      · rintro rfl
        exact Or.inl (Or.inl ⟨rfl, rfl⟩)
      · rintro ((⟨-, rfl⟩ | ⟨hu, -⟩) | ⟨hout, -⟩)
        · rfl
        · exact absurd hu.symm hb
        · exact absurd (Or.inl ⟨rfl, rfl⟩) (hout ⟨b, kb⟩)
    · have hout : ∀ w', ¬ Ends ((a, b), (ka, kb)) u w' := by
        rintro w' (⟨hu, -⟩ | ⟨hu, -⟩)
        · exact ha hu.symm
        · exact hb hu.symm
      rw [if_neg hb, if_neg ha]
      constructor
      · exact fun hw => Or.inr ⟨hout, hw⟩
      · rintro (hends | ⟨-, hw⟩)
        · exact absurd hends (hout w)
        · exact hw

/-- **The wiring joins exactly the two sides of each link.** -/
theorem getElem?_wire_iff (hp : Planned t p) :
    (Network.wire t p)[u]? = some w ↔ Joined t p.indices u w := by
  refine foldl_invariant (fun done (wiring : Std.HashMap LinkEnd LinkEnd) =>
    ∀ u w, wiring[u]? = some w ↔ ∃ side ∈ done, Ends side u w) (by simp) ?_ u w
  intro done side wiring hpre hdone u w
  have hmem : ∀ side' ∈ done ++ [side], side' ∈ t.edges.zip p.indices.toList := hpre.subset
  have hedge : side.1 ∈ t.edges := (List.of_mem_zip (hmem side (by simp))).1
  rw [getElem?_join wiring side (hp.consistent.fst_ne_snd hedge), hdone]
  constructor
  · rintro (hends | ⟨-, side', hside', hends⟩)
    · exact ⟨side, by simp, hends⟩
    · exact ⟨side', by simp [hside'], hends⟩
  · rintro ⟨side', hside', hends⟩
    by_cases hnew : ∃ w', Ends side u w'
    · -- the link is wired anew, but to what it was wired before
      obtain ⟨w', hends'⟩ := hnew
      obtain rfl : w' = w := Joined.unique hp ⟨side, hmem side (by simp), hends'⟩
        ⟨side', hmem side' hside', hends⟩
      exact Or.inl hends'
    · refine Or.inr ⟨fun w' hends' => hnew ⟨w', hends'⟩, ?_⟩
      rcases List.mem_append.mp hside' with hold | hlast
      · exact ⟨side', hold, hends⟩
      · obtain rfl := List.mem_singleton.mp hlast
        exact absurd ⟨w, hends⟩ hnew

end Multipath
