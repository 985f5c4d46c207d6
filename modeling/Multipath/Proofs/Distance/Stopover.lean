import Multipath.Proofs.Topology.Graph

/-!
# Shortest paths by their stops

Round `k` of the distance computation allows node `k` as a stop on the way.  What the rounds
`0, …, k - 1` establish is therefore a fact about the paths whose stops, that is, whose nodes other
than the two ends, are all numbered below `k`.  `hopsVia G k a b` is the length of a shortest such
path, and `⊤` if there is none.

* `hopsVia_succ`: one more stop gives the recurrence of the rounds.  A path visits the new stop at
  most once, so it falls into two paths with the old stops.
* `hopsVia_eq_edist`: when all nodes are allowed as stops, this is the distance in the graph.
* `lt_of_hopsVia_eq`: a path among `n` nodes has fewer than `n` hops, however many nodes a 32-bit
  number could name.
-/

namespace Multipath

variable {G : SimpleGraph NodeId} {k n : ℕ} {a b c : NodeId}

/-- Every node on the walk, its ends apart, is numbered below `k`. -/
def StopsBelow (k : ℕ) (w : G.Walk a b) : Prop :=
  ∀ v ∈ w.support, v = a ∨ v = b ∨ v.toNat < k

/-- The number of hops of a shortest path all of whose stops are numbered below `k`. -/
noncomputable def hopsVia (G : SimpleGraph NodeId) (k : ℕ) (a b : NodeId) : ℕ∞ :=
  ⨅ w : {w : G.Walk a b // w.IsPath ∧ StopsBelow k w}, (w.1.length : ℕ∞)

/-! ### Walks and their stops -/

theorem StopsBelow.mono {k' : ℕ} {w : G.Walk a b} (h : StopsBelow k w) (hk : k ≤ k') :
    StopsBelow k' w := by
  intro v hv
  rcases h v hv with hva | hvb | hvk
  · exact Or.inl hva
  · exact Or.inr (Or.inl hvb)
  · exact Or.inr (Or.inr (by omega))

theorem StopsBelow.append {w : G.Walk a c} {w' : G.Walk c b} (hw : StopsBelow k w)
    (hw' : StopsBelow k w') (hc : c.toNat < k) : StopsBelow k (w.append w') := by
  intro v hv
  rcases (SimpleGraph.Walk.mem_support_append_iff w w').mp hv with hv | hv
  · rcases hw v hv with rfl | rfl | hvk
    · exact Or.inl rfl
    · exact Or.inr (Or.inr hc)
    · exact Or.inr (Or.inr hvk)
  · rcases hw' v hv with rfl | rfl | hvk
    · exact Or.inr (Or.inr hc)
    · exact Or.inr (Or.inl rfl)
    · exact Or.inr (Or.inr hvk)

/-- A walk that does not stop at the node numbered `k` does not need it. -/
theorem StopsBelow.of_succ {w : G.Walk a b} (h : StopsBelow (k + 1) w) (hc : c.toNat = k)
    (hcw : c ∈ w.support → c = a ∨ c = b) : StopsBelow k w := by
  intro v hv
  rcases h v hv with hva | hvb | hvk
  · exact Or.inl hva
  · exact Or.inr (Or.inl hvb)
  · rcases Nat.lt_succ_iff_lt_or_eq.mp hvk with hlt | heq
    · exact Or.inr (Or.inr hlt)
    · obtain rfl : v = c := UInt32.toNat_inj.mp (heq.trans hc.symm)
      rcases hcw hv with hva | hvb
      · exact Or.inl hva
      · exact Or.inr (Or.inl hvb)

/-- Both parts of a path that is cut at its stop `k` have only the earlier stops. -/
theorem StopsBelow.of_append {w : G.Walk a c} {w' : G.Walk c b} (hc : c.toNat = k)
    (hca : c ≠ a) (hcb : c ≠ b) (hp : (w.append w').IsPath)
    (h : StopsBelow (k + 1) (w.append w')) : StopsBelow k w ∧ StopsBelow k w' := by
  constructor
  · refine StopsBelow.of_succ (c := c) ?_ hc fun _ => Or.inr rfl
    intro v hv
    have hvb : v ≠ b :=
      hp.ne_of_mem_support_of_append hcb.symm hv w'.end_mem_support
    rcases h v ((SimpleGraph.Walk.mem_support_append_iff w w').mpr (Or.inl hv)) with hva | hvb' | hvk
    · exact Or.inl hva
    · exact absurd hvb' hvb
    · exact Or.inr (Or.inr hvk)
  · refine StopsBelow.of_succ (c := c) ?_ hc fun _ => Or.inl rfl
    intro v hv
    rcases h v ((SimpleGraph.Walk.mem_support_append_iff w w').mpr (Or.inr hv)) with rfl | hvb | hvk
    · exact absurd rfl
        (hp.ne_of_mem_support_of_append hca.symm w.start_mem_support hv)
    · exact Or.inr (Or.inl hvb)
    · exact Or.inr (Or.inr hvk)

/-! ### The least number of hops -/

theorem hopsVia_le {w : G.Walk a b} (hs : StopsBelow k w) : hopsVia G k a b ≤ w.length := by
  have hstops : StopsBelow k w.bypass := fun v hv => hs v (w.support_bypass_subset_support hv)
  calc hopsVia G k a b ≤ w.bypass.length :=
        iInf_le (fun w : {w : G.Walk a b // w.IsPath ∧ StopsBelow k w} => (w.1.length : ℕ∞))
          ⟨w.bypass, w.bypass_isPath, hstops⟩
    _ ≤ w.length := by exact_mod_cast w.length_bypass_le_length

theorem exists_path_of_hopsVia {m : ℕ} (h : hopsVia G k a b = m) :
    ∃ w : G.Walk a b, w.IsPath ∧ StopsBelow k w ∧ w.length = m := by
  rcases isEmpty_or_nonempty {w : G.Walk a b // w.IsPath ∧ StopsBelow k w} with hemp | hne
  · rw [hopsVia, iInf_of_empty] at h
    exact absurd h (ENat.top_ne_natCast m)
  · obtain ⟨⟨w, hp, hs⟩, hw⟩ := ENat.exists_eq_iInf
      fun w : {w : G.Walk a b // w.IsPath ∧ StopsBelow k w} => (w.1.length : ℕ∞)
    exact ⟨w, hp, hs, by exact_mod_cast hw.trans h⟩

@[simp] theorem hopsVia_self (G : SimpleGraph NodeId) (k : ℕ) (a : NodeId) :
    hopsVia G k a a = 0 := by
  have h : hopsVia G k a a ≤ (SimpleGraph.Walk.nil : G.Walk a a).length :=
    hopsVia_le fun v hv => Or.inl (by simpa using hv)
  simpa using h

theorem hopsVia_zero_of_adj (h : G.Adj a b) : hopsVia G 0 a b = 1 := by
  have hle : hopsVia G 0 a b ≤ (SimpleGraph.Walk.cons h SimpleGraph.Walk.nil).length :=
    hopsVia_le fun v hv => by simpa [or_comm] using hv
  refine le_antisymm (by simpa using hle) (Order.one_le_iff_ne_zero.mpr ?_)
  intro h0
  obtain ⟨w, -, -, hw⟩ := exists_path_of_hopsVia (m := 0) (by simpa using h0)
  exact h.ne (SimpleGraph.Walk.eq_of_length_eq_zero hw)

theorem hopsVia_zero_eq_top (hab : a ≠ b) (h : ¬ G.Adj a b) : hopsVia G 0 a b = ⊤ := by
  by_contra hne
  obtain ⟨m, hm⟩ := ENat.ne_top_iff_exists.mp hne
  obtain ⟨w, hp, hs, -⟩ := exists_path_of_hopsVia hm.symm
  cases w with
  | nil => exact hab rfl
  | @cons _ v _ hadj w =>
      rcases hs v (by simp) with rfl | rfl | hv
      · exact absurd hadj (G.irrefl)
      · exact h hadj
      · exact absurd hv (Nat.not_lt_zero _)

/-- **One more stop.**  A shortest path either does without the node numbered `k`, or it goes
there and on from there. -/
theorem hopsVia_succ (hc : c.toNat = k) :
    hopsVia G (k + 1) a b = min (hopsVia G k a b) (hopsVia G k a c + hopsVia G k c b) := by
  refine le_antisymm (le_min ?_ ?_) ?_
  · -- the paths without the new stop are still allowed
    refine le_iInf ?_
    rintro ⟨w, hp, hs⟩
    exact hopsVia_le (hs.mono (Nat.le_succ k))
  · -- two paths that meet at the new stop are a walk, and some path is no longer
    rcases eq_or_ne (hopsVia G k a c + hopsVia G k c b) ⊤ with htop | hne
    · exact htop ▸ le_top
    · obtain ⟨hac, hcb⟩ := WithTop.add_ne_top.mp hne
      obtain ⟨m, hm⟩ := ENat.ne_top_iff_exists.mp hac
      obtain ⟨m', hm'⟩ := ENat.ne_top_iff_exists.mp hcb
      obtain ⟨w, -, hs, hw⟩ := exists_path_of_hopsVia hm.symm
      obtain ⟨w', -, hs', hw'⟩ := exists_path_of_hopsVia hm'.symm
      have happ : StopsBelow (k + 1) (w.append w') :=
        (hs.mono (Nat.le_succ k)).append (hs'.mono (Nat.le_succ k)) (by omega)
      rw [← hm, ← hm', ← hw, ← hw', ← Nat.cast_add, ← SimpleGraph.Walk.length_append]
      exact hopsVia_le happ
  · -- a path that does stop there is cut in two
    refine le_iInf ?_
    rintro ⟨w, hp, hs⟩
    by_cases hcw : c ∈ w.support ∧ c ≠ a ∧ c ≠ b
    · obtain ⟨hcw, hca, hcb⟩ := hcw
      obtain ⟨q, r, -, -, rfl⟩ := hp.mem_support_iff_exists_append.mp hcw
      obtain ⟨hq, hr⟩ := hs.of_append hc hca hcb hp
      refine (min_le_right _ _).trans ?_
      rw [SimpleGraph.Walk.length_append, Nat.cast_add]
      exact add_le_add (hopsVia_le hq) (hopsVia_le hr)
    · refine (min_le_left _ _).trans (hopsVia_le (hs.of_succ hc ?_))
      intro hmem
      tauto

/-! ### Graphs on finitely many nodes -/

variable (hG : ∀ a b, G.Adj a b → b.toNat < n)
include hG

theorem lt_of_mem_support {w : G.Walk a b} {v : NodeId} (hv : v ∈ w.support) :
    v = a ∨ v.toNat < n := by
  induction w with
  | nil => exact Or.inl (by simpa using hv)
  | cons hadj w ih =>
      rcases List.mem_cons.mp (SimpleGraph.Walk.support_cons hadj w ▸ hv) with hva | hv
      · exact Or.inl hva
      · rcases ih hv with rfl | hlt
        · exact Or.inr (hG _ _ hadj)
        · exact Or.inr hlt

theorem hopsVia_eq_edist (hk : n ≤ k) : hopsVia G k a b = G.edist a b := by
  refine le_antisymm (le_iInf ?_) (le_iInf fun ⟨w, _, _⟩ => G.edist_le w)
  intro w
  refine hopsVia_le ?_
  intro v hv
  rcases lt_of_mem_support hG hv with hva | hlt
  · exact Or.inl hva
  · exact Or.inr (Or.inr (by omega))

theorem length_lt_of_isPath (ha : a.toNat < n) {w : G.Walk a b} (hp : w.IsPath) :
    w.length < n := by
  have hlt : ∀ v ∈ w.support, v.toNat < n := by
    intro v hv
    rcases lt_of_mem_support hG hv with rfl | hlt
    · exact ha
    · exact hlt
  have hlen := length_le_of_nodup hp.support_nodup hlt
  rw [SimpleGraph.Walk.length_support] at hlen
  omega

theorem dist_lt_of_reachable (ha : a.toNat < n) (hr : G.Reachable a b) : G.dist a b < n := by
  obtain ⟨w, hp, hw⟩ := hr.exists_path_of_dist
  exact hw ▸ length_lt_of_isPath hG ha hp

theorem lt_of_hopsVia_eq {m : ℕ} (ha : a.toNat < n) (h : hopsVia G k a b = m) : m < n := by
  obtain ⟨w, hp, -, rfl⟩ := exists_path_of_hopsVia h
  exact length_lt_of_isPath hG ha hp

end Multipath
