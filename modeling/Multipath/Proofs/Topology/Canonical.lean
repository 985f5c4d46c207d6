import Mathlib.Data.Sym.Sym2
import Multipath.Proofs.Topology.Graph

/-!
# What a topology was written down as

A topology keeps its links with the lower end first and sorted, and its endpoints as a set.  So of
the lists from which it was built only the set of links and the set of endpoints are left
(`Topology.eq_of_build`).  Lists that differ in the order of their links and in which end of a link
comes first (`SameLinks`) give the same topology.
-/

namespace Multipath

/-- The lists have the same links: one is the other reordered, with some links turned round. -/
def SameLinks (edges edges' : List Edge) : Prop :=
  ∃ turned : List Edge, List.Forall₂ (fun e f => f = e ∨ f = e.swap) edges turned ∧
    turned.Perm edges'

/-- An edge and its reversal are the same as unordered pairs, and keep this in one direction. -/
theorem Edge.normalize_eq_iff {e f : Edge} :
    e.normalize = f.normalize ↔ s(e.1, e.2) = s(f.1, f.2) := by
  obtain ⟨a, b⟩ := e
  obtain ⟨c, d⟩ := f
  simp only [Edge.normalize, Sym2.eq_iff, UInt32.le_iff_toNat_le]
  split_ifs <;> simp only [Prod.mk.injEq, ← UInt32.toNat_inj] <;> omega

theorem Edge.normalize_swap (e : Edge) : Edge.normalize e.swap = e.normalize :=
  normalize_eq_iff.mpr Sym2.eq_swap

namespace SameLinks

variable {edges edges' turned : List Edge}

/-- Turned round or not, the links have the same upward directions. -/
theorem map_normalize_of_turned
    (h : List.Forall₂ (fun e f => f = e ∨ f = e.swap) edges turned) :
    edges.map Edge.normalize = turned.map Edge.normalize := by
  induction h with
  | nil => rfl
  | cons hef _ ih =>
      rw [List.map_cons, List.map_cons, ih]
      rcases hef with rfl | rfl
      · rfl
      · rw [Edge.normalize_swap]

theorem perm_normalize (h : SameLinks edges edges') :
    (edges.map Edge.normalize).Perm (edges'.map Edge.normalize) := by
  obtain ⟨turned, hturned, hperm⟩ := h
  rw [map_normalize_of_turned hturned]
  exact hperm.map _

end SameLinks

namespace Topology

variable {n : UInt64} {edges edges' : List Edge} {endpoints endpoints' : List NodeId}
variable {t t' : Topology}

/-- **A topology is determined by its links and endpoints as sets.** -/
theorem eq_of_build (h : build n edges endpoints = .ok t) (h' : build n edges' endpoints' = .ok t')
    (hlinks : ∀ e, e ∈ edges.map Edge.normalize ↔ e ∈ edges'.map Edge.normalize)
    (hends : ∀ v, v ∈ endpoints ↔ v ∈ endpoints') : t = t' := by
  obtain ⟨links, ends, hl, he, rfl⟩ := build_eq_ok h
  obtain ⟨links', ends', hl', he', rfl⟩ := build_eq_ok h'
  obtain rfl : links = links' := by
    refine Std.ExtTreeSet.ext_mem fun e => ?_
    rw [(collected_of_foldlM hl).mem_iff, (collected_of_foldlM hl').mem_iff, hlinks]
  obtain rfl : ends = ends' := by
    refine Std.ExtTreeSet.ext_contains fun v => Bool.eq_iff_iff.mpr ?_
    rw [mem_of_foldlM_addEndpoint he, mem_of_foldlM_addEndpoint he', hends]
  rfl

end Topology

end Multipath
