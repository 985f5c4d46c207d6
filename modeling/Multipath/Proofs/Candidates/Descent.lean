import Mathlib.Data.List.Chain
import Multipath.Proofs.Topology.Graph

/-!
# Descending to a destination

A shortest path to a destination is the same thing as a list of nodes each of which is a neighbour
of the one before and one hop closer to the destination.  This file is about graphs only; that the
candidates of a node are exactly such neighbours is shown elsewhere.

* `exists_walk_iff_isChain`: shortest paths are the descending lists that arrive;
* `length_le_of_isChain`, `nodup_of_isChain`, `exists_isChain_append`: a descending list is no longer
  than the distance, meets no node twice, and can always be continued until it arrives.
-/

namespace Multipath

variable {G : SimpleGraph NodeId} {d s x y : NodeId} {p : List NodeId}

/-- `y` is a neighbour of `x` and one hop closer to `d`. -/
def Closer (G : SimpleGraph NodeId) (d x y : NodeId) : Prop :=
  G.Adj x y ∧ G.dist y d + 1 = G.dist x d

namespace Closer

theorem reachable (h : Closer G d x y) : G.Reachable x d :=
  SimpleGraph.Reachable.of_dist_ne_zero (by have := h.2; omega)

theorem reachable_next (h : Closer G d x y) : G.Reachable y d :=
  h.1.symm.reachable.trans h.reachable

theorem ne (h : Closer G d x y) : x ≠ d := by
  rintro rfl
  have hdist := h.2
  rw [SimpleGraph.dist_self] at hdist
  omega

end Closer

/-- The tail of a shortest walk is a shortest walk. -/
theorem closer_of_cons {w : G.Walk y d} (hadj : G.Adj x y)
    (h : (SimpleGraph.Walk.cons hadj w).length = G.dist x d) :
    Closer G d x y ∧ w.length = G.dist y d := by
  obtain ⟨q, hq⟩ := w.reachable.exists_walk_length_eq_dist
  have hle : G.dist x d ≤ q.length + 1 := G.dist_le (SimpleGraph.Walk.cons hadj q)
  have hge : G.dist y d ≤ w.length := G.dist_le w
  rw [SimpleGraph.Walk.length_cons] at h
  exact ⟨⟨hadj, by omega⟩, by omega⟩

theorem exists_closer (hr : G.Reachable x d) (hne : x ≠ d) : ∃ y, Closer G d x y := by
  obtain ⟨w, hw⟩ := hr.exists_walk_length_eq_dist
  cases w with
  | nil => exact absurd rfl hne
  | cons hadj w => exact ⟨_, (closer_of_cons hadj hw).1⟩

/-! ### Shortest paths descend -/

theorem isChain_support {w : G.Walk s d} (h : w.length = G.dist s d) :
    w.support.IsChain (Closer G d) := by
  induction w with
  | nil => exact List.isChain_singleton _
  | @cons s v d hadj w ih =>
      obtain ⟨hcloser, hw⟩ := closer_of_cons hadj h
      have hchain := ih hw
      rw [SimpleGraph.Walk.support_cons]
      rw [← SimpleGraph.Walk.cons_tail_support] at hchain ⊢
      exact List.isChain_cons_cons.mpr ⟨hcloser, hchain⟩

/-! ### What descends and arrives is a shortest path -/

theorem exists_walk_of_isChain (hc : (s :: p).IsChain (Closer G d))
    (hlast : (s :: p).getLast? = some d) :
    ∃ w : G.Walk s d, w.support = s :: p ∧ w.length = G.dist s d := by
  induction p generalizing s with
  | nil =>
      obtain rfl : s = d := by simpa using hlast
      exact ⟨SimpleGraph.Walk.nil, rfl, by simp⟩
  | cons v p ih =>
      obtain ⟨hcloser, hc⟩ := List.isChain_cons_cons.mp hc
      obtain ⟨w, hsup, hlen⟩ := ih hc (by simpa using hlast)
      refine ⟨SimpleGraph.Walk.cons hcloser.1 w, by rw [SimpleGraph.Walk.support_cons, hsup], ?_⟩
      rw [SimpleGraph.Walk.length_cons, hlen, hcloser.2]

theorem exists_walk_iff_isChain (hs : p.head? = some s) :
    (∃ w : G.Walk s d, w.support = p ∧ w.length = G.dist s d) ↔
      p.getLast? = some d ∧ p.IsChain (Closer G d) := by
  constructor
  · rintro ⟨w, rfl, hw⟩
    refine ⟨?_, isChain_support hw⟩
    rw [List.getLast?_eq_some_getLast w.support_ne_nil, w.getLast_support]
  · rintro ⟨hlast, hc⟩
    obtain ⟨q, rfl⟩ := List.head?_eq_some_iff.mp hs
    exact exists_walk_of_isChain hc hlast

/-! ### No detour, no circle, no dead end -/

theorem length_le_of_isChain (hc : (s :: p).IsChain (Closer G d)) : p.length ≤ G.dist s d := by
  induction p generalizing s with
  | nil => exact Nat.zero_le _
  | cons v p ih =>
      obtain ⟨hcloser, hc⟩ := List.isChain_cons_cons.mp hc
      have hle := ih hc
      have hdist := hcloser.2
      rw [List.length_cons]
      omega

theorem nodup_of_isChain (hc : p.IsChain (Closer G d)) : p.Nodup := by
  have hdesc : p.IsChain fun x y => G.dist y d < G.dist x d :=
    hc.imp fun x y h => by have := h.2; omega
  have : Trans (fun x y => G.dist y d < G.dist x d) (fun x y => G.dist y d < G.dist x d)
      (fun x y => G.dist y d < G.dist x d) := ⟨fun hab hbc => hbc.trans hab⟩
  refine hdesc.pairwise.imp ?_
  intro x y hlt heq
  subst heq
  exact absurd hlt (lt_irrefl _)

theorem exists_isChain_append (hr : G.Reachable s d) (hc : (s :: p).IsChain (Closer G d)) :
    ∃ q, (s :: p ++ q).IsChain (Closer G d) ∧ (s :: p ++ q).getLast? = some d := by
  induction p generalizing s with
  | nil =>
      obtain ⟨w, hw⟩ := hr.exists_walk_length_eq_dist
      refine ⟨w.support.tail, ?_⟩
      rw [List.singleton_append, SimpleGraph.Walk.cons_tail_support]
      exact ((exists_walk_iff_isChain (by simp [w.head_support, List.head?_eq_some_head])).mp
        ⟨w, rfl, hw⟩).symm
  | cons v p ih =>
      obtain ⟨hcloser, hc⟩ := List.isChain_cons_cons.mp hc
      obtain ⟨q, hq, hlast⟩ := ih hcloser.reachable_next hc
      refine ⟨q, List.isChain_cons_cons.mpr ⟨hcloser, hq⟩, ?_⟩
      simpa using hlast

end Multipath
