import Multipath.Proofs.Topology.Canonical

/-!
# What a topology is refused for

The edges are looked at one after the other, and an edge is judged by itself and by the edges before
it.  `AtFault` says when an edge is refused and `EdgeFault` for what, so several faults of one edge
are told apart by the order in which they are looked for.  `FirstFault` is the fault of a whole
description: that of the first bad edge or, if all edges are good, that of the first bad endpoint.

* `faultless_iff`: no edge is refused exactly if there is no loop, no end out of range, and no two
  edges with the same ends;
* `exists_build_iff`, `build_eq_error_iff`: when a topology is built, and what is reported otherwise.
-/

namespace Multipath

namespace Topology

variable {n : UInt64} {before edges : List Edge} {endpoints : List NodeId} {a b : NodeId} {e : Edge}
variable {fault : TopologyError} {seen : EdgeSet}

/-- Whether an edge that comes after the edges `before` is refused. -/
def AtFault (n : UInt64) (before : List Edge) (e : Edge) : Prop :=
  e.1 = e.2 ∨ n.toNat ≤ e.1.toNat ∨ n.toNat ≤ e.2.toNat ∨ ∃ f ∈ before, s(f.1, f.2) = s(e.1, e.2)

/-- What is reported of an edge that comes after the edges `before`. -/
inductive EdgeFault (n : UInt64) (before : List Edge) : Edge → TopologyError → Prop
  | selfLoop (a : NodeId) : EdgeFault n before (a, a) (.selfLoop a)
  | firstEnd (a b : NodeId) (hne : a ≠ b) (ha : n.toNat ≤ a.toNat) :
      EdgeFault n before (a, b) (.edgeOutOfRange a b a n)
  | secondEnd (a b : NodeId) (hne : a ≠ b) (ha : a.toNat < n.toNat) (hb : n.toNat ≤ b.toNat) :
      EdgeFault n before (a, b) (.edgeOutOfRange a b b n)
  | repeated (a b : NodeId) (hne : a ≠ b) (ha : a.toNat < n.toNat) (hb : b.toNat < n.toNat)
      (hold : ∃ f ∈ before, s(f.1, f.2) = s(a, b)) : EdgeFault n before (a, b) (.duplicateEdge a b)

/-- No edge is refused. -/
def Faultless (n : UInt64) (edges : List Edge) : Prop :=
  ∀ before e, before ++ [e] <+: edges → ¬ AtFault n before e

/-- What is reported of the edges and endpoints of a topology. -/
inductive FirstFault (n : UInt64) (edges : List Edge) (endpoints : List NodeId) :
    TopologyError → Prop
  | edge (before after : List Edge) (e : Edge) (fault : TopologyError)
      (hsplit : edges = before ++ e :: after) (hbefore : Faultless n before)
      (hfault : EdgeFault n before e fault) : FirstFault n edges endpoints fault
  | endpoint (before after : List NodeId) (v : NodeId) (hedges : Faultless n edges)
      (hsplit : endpoints = before ++ v :: after) (hbefore : ∀ w ∈ before, w.toNat < n.toNat)
      (hv : n.toNat ≤ v.toNat) : FirstFault n edges endpoints (.endpointOutOfRange v n)

/-! ### Single edges -/

/-- An edge is refused exactly if there is something to report of it. -/
theorem atFault_iff : AtFault n before e ↔ ∃ fault, EdgeFault n before e fault := by
  constructor
  · intro h
    obtain ⟨a, b⟩ := e
    by_cases hne : a = b
    · obtain rfl := hne
      exact ⟨_, .selfLoop a⟩
    · rcases Nat.lt_or_ge a.toNat n.toNat with ha | ha
      · rcases Nat.lt_or_ge b.toNat n.toNat with hb | hb
        · obtain hold : ∃ f ∈ before, s(f.1, f.2) = s(a, b) := ((h.resolve_left hne).resolve_left
            (Nat.not_le.mpr ha)).resolve_left (Nat.not_le.mpr hb)
          exact ⟨_, .repeated a b hne ha hb hold⟩
        · exact ⟨_, .secondEnd a b hne ha hb⟩
      · exact ⟨_, .firstEnd a b hne ha⟩
  · rintro ⟨fault, h⟩
    cases h with
    | selfLoop => exact Or.inl rfl
    | firstEnd _ _ _ ha => exact Or.inr (Or.inl ha)
    | secondEnd _ _ _ _ hb => exact Or.inr (Or.inr (Or.inl hb))
    | repeated _ _ _ _ _ hold => exact Or.inr (Or.inr (Or.inr hold))

theorem not_atFault_iff : ¬ AtFault n before e ↔ e.1 ≠ e.2 ∧ e.1.toNat < n.toNat ∧
    e.2.toNat < n.toNat ∧ ∀ f ∈ before, s(f.1, f.2) ≠ s(e.1, e.2) := by
  simp only [AtFault, not_or, not_le, not_exists, not_and, ne_eq]

theorem Collected.contains_iff (h : Collected n before seen) :
    seen.contains e.normalize = true ↔ ∃ f ∈ before, s(f.1, f.2) = s(e.1, e.2) := by
  rw [Std.ExtTreeSet.contains_iff_mem, h.mem_iff, List.mem_map]
  simp only [Edge.normalize_eq_iff]

/-- An edge that is not at fault is taken. -/
theorem Collected.exists_addEdge (h : Collected n before seen) (he : ¬ AtFault n before e) :
    ∃ seen', addEdge n seen e = .ok seen' := by
  obtain ⟨hne, h1, h2, hnew⟩ := not_atFault_iff.mp he
  refine ⟨_, addEdge_eq_ok.mpr ⟨hne, h1, h2, ?_, rfl⟩⟩
  rw [Bool.eq_false_iff, Ne, h.contains_iff]
  rintro ⟨f, hf, hends⟩
  exact hnew f hf hends

/-- An edge at fault is refused, for the fault that is looked for first. -/
theorem Collected.addEdge_eq_error (h : Collected n before seen) (hf : EdgeFault n before e fault) :
    addEdge n seen e = .error fault := by
  cases hf with
  | selfLoop a => rw [addEdge, if_pos rfl]
  | firstEnd a b hne ha => rw [addEdge, if_neg hne, if_pos ha]
  | secondEnd a b hne ha hb =>
      rw [addEdge, if_neg hne, if_neg (Nat.not_le.mpr ha), if_pos hb]
  | repeated a b hne ha hb hold =>
      rw [addEdge, if_neg hne, if_neg (Nat.not_le.mpr ha), if_neg (Nat.not_le.mpr hb),
        if_pos (h.contains_iff.mpr hold)]

theorem Collected.addEdge_eq_error_iff (h : Collected n before seen) :
    addEdge n seen e = .error fault ↔ EdgeFault n before e fault := by
  refine ⟨fun herror => ?_, h.addEdge_eq_error⟩
  by_cases he : AtFault n before e
  · obtain ⟨fault', hfault'⟩ := atFault_iff.mp he
    obtain rfl : fault' = fault :=
      Except.error.inj ((h.addEdge_eq_error hfault').symm.trans herror)
    exact hfault'
  · obtain ⟨seen', hok⟩ := h.exists_addEdge he
    rw [hok] at herror
    exact absurd herror (by simp)

/-! ### All edges -/

theorem faultless_nil (n : UInt64) : Faultless n [] := by
  intro before e hpre
  simp at hpre

theorem faultless_concat : Faultless n (edges ++ [e]) ↔ Faultless n edges ∧ ¬ AtFault n edges e := by
  constructor
  · intro h
    refine ⟨fun before f hpre => h before f (hpre.trans (List.prefix_append _ _)), ?_⟩
    exact h edges e (List.prefix_refl _)
  · rintro ⟨hedges, he⟩ before f hpre
    rcases List.prefix_concat_iff.mp hpre with heq | hpre
    · obtain ⟨rfl, hlast⟩ := List.append_inj' heq rfl
      obtain rfl : f = e := by simpa using hlast
      exact he
    · exact hedges before f hpre

theorem faultless_iff : Faultless n edges ↔
    (∀ e ∈ edges, e.1 ≠ e.2 ∧ e.1.toNat < n.toNat ∧ e.2.toNat < n.toNat) ∧
      edges.Pairwise fun e f => s(e.1, e.2) ≠ s(f.1, f.2) := by
  induction edges using List.reverseRecOn with
  | nil => simp [faultless_nil]
  | append_singleton edges e ih =>
      rw [faultless_concat, ih, not_atFault_iff, List.pairwise_append]
      simp only [List.mem_append, List.mem_singleton, or_imp, forall_and, forall_eq,
        List.pairwise_singleton, true_and]
      tauto

theorem pairwise_ends_iff : (edges.Pairwise fun e f => s(e.1, e.2) ≠ s(f.1, f.2)) ↔
    ∀ (i j : ℕ) (e f : Edge), i ≠ j → edges[i]? = some e → edges[j]? = some f →
      s(e.1, e.2) ≠ s(f.1, f.2) := by
  rw [List.pairwise_iff_getElem]
  constructor
  · intro h i j e f hne hi hj
    obtain ⟨hilt, rfl⟩ := List.getElem?_eq_some_iff.mp hi
    obtain ⟨hjlt, rfl⟩ := List.getElem?_eq_some_iff.mp hj
    rcases Nat.lt_or_gt_of_ne hne with hlt | hlt
    · exact h i j hilt hjlt hlt
    · exact (h j i hjlt hilt hlt).symm
  · intro h i j hi hj hlt
    exact h i j _ _ (Nat.ne_of_lt hlt) (List.getElem?_eq_getElem hi) (List.getElem?_eq_getElem hj)

theorem exists_foldlM_addEdge_iff :
    (∃ seen, edges.foldlM (addEdge n) ∅ = .ok seen) ↔ Faultless n edges := by
  induction edges using List.reverseRecOn with
  | nil => exact iff_of_true ⟨∅, rfl⟩ (faultless_nil n)
  | append_singleton edges e ih =>
      rw [faultless_concat, ← ih]
      constructor
      · rintro ⟨seen', h⟩
        rw [List.foldlM_append, bind_eq_ok] at h
        obtain ⟨seen, hseen, hlast⟩ := h
        refine ⟨⟨seen, hseen⟩, ?_⟩
        intro he
        obtain ⟨fault, hfault⟩ := atFault_iff.mp he
        have herror := (collected_of_foldlM hseen).addEdge_eq_error hfault
        rw [List.foldlM_cons, herror] at hlast
        simp [bind, Except.bind] at hlast
      · rintro ⟨⟨seen, hseen⟩, he⟩
        obtain ⟨seen', hlast⟩ := (collected_of_foldlM hseen).exists_addEdge he
        refine ⟨seen', ?_⟩
        rw [List.foldlM_append, bind_eq_ok]
        exact ⟨seen, hseen, by simpa using hlast⟩

/-- The edge loop reports the fault of the first edge at fault. -/
theorem foldlM_addEdge_eq_error_iff : edges.foldlM (addEdge n) ∅ = .error fault ↔
    ∃ before e after, edges = before ++ e :: after ∧ Faultless n before ∧
      EdgeFault n before e fault := by
  rw [foldlM_eq_error_iff]
  constructor
  · rintro ⟨before, e, after, seen, hsplit, hseen, he⟩
    exact ⟨before, e, after, hsplit, exists_foldlM_addEdge_iff.mp ⟨seen, hseen⟩,
      (collected_of_foldlM hseen).addEdge_eq_error_iff.mp he⟩
  · rintro ⟨before, e, after, hsplit, hbefore, hfault⟩
    obtain ⟨seen, hseen⟩ := exists_foldlM_addEdge_iff.mpr hbefore
    exact ⟨before, e, after, seen, hsplit, hseen,
      (collected_of_foldlM hseen).addEdge_eq_error hfault⟩

/-! ### Endpoints -/

theorem addEndpoint_of_lt {ends : NodeSet} {v : NodeId} (hv : v.toNat < n.toNat) :
    addEndpoint n ends v = .ok (ends.insert v) :=
  if_neg (Nat.not_le.mpr hv)

theorem addEndpoint_of_le {ends : NodeSet} {v : NodeId} (hv : n.toNat ≤ v.toNat) :
    addEndpoint n ends v = .error (.endpointOutOfRange v n) :=
  if_pos hv

theorem exists_foldlM_addEndpoint_iff :
    (∃ ends, endpoints.foldlM (addEndpoint n) ∅ = .ok ends) ↔
      ∀ v ∈ endpoints, v.toNat < n.toNat := by
  constructor
  · rintro ⟨ends, h⟩
    refine foldlM_invariant (fun done _ => ∀ v ∈ done, v.toNat < n.toNat) h (by simp) ?_
    rintro done v ends ends' - hdone hstep w hw
    rcases List.mem_append.mp hw with hw | hw
    · exact hdone w hw
    · obtain rfl := List.mem_singleton.mp hw
      by_contra hout
      rw [addEndpoint_of_le (Nat.not_lt.mp hout)] at hstep
      exact absurd hstep (by simp)
  · intro h
    obtain ⟨ends, hends, -⟩ := foldlM_total (fun _ _ => True) (f := addEndpoint n)
      (l := endpoints) (b := ∅) trivial fun done v ends hpre _ =>
        ⟨_, addEndpoint_of_lt (h v (hpre.subset (by simp))), trivial⟩
    exact ⟨ends, hends⟩

/-- The endpoint loop reports the first endpoint that is no node. -/
theorem foldlM_addEndpoint_eq_error_iff : endpoints.foldlM (addEndpoint n) ∅ = .error fault ↔
    ∃ before v after, endpoints = before ++ v :: after ∧ (∀ w ∈ before, w.toNat < n.toNat) ∧
      n.toNat ≤ v.toNat ∧ fault = .endpointOutOfRange v n := by
  rw [foldlM_eq_error_iff]
  constructor
  · rintro ⟨before, v, after, ends, hsplit, hends, hv⟩
    have hbefore := exists_foldlM_addEndpoint_iff.mp ⟨ends, hends⟩
    rcases Nat.lt_or_ge v.toNat n.toNat with hlt | hle
    · rw [addEndpoint_of_lt hlt] at hv
      exact absurd hv (by simp)
    · rw [addEndpoint_of_le hle] at hv
      exact ⟨before, v, after, hsplit, hbefore, hle, (Except.error.inj hv).symm⟩
  · rintro ⟨before, v, after, hsplit, hbefore, hle, rfl⟩
    obtain ⟨ends, hends⟩ := exists_foldlM_addEndpoint_iff.mpr hbefore
    exact ⟨before, v, after, ends, hsplit, hends, addEndpoint_of_le hle⟩

/-! ### The whole description -/

theorem exists_build_iff : (∃ t, build n edges endpoints = .ok t) ↔
    Faultless n edges ∧ ∀ v ∈ endpoints, v.toNat < n.toNat := by
  rw [← exists_foldlM_addEdge_iff, ← exists_foldlM_addEndpoint_iff]
  constructor
  · rintro ⟨t, h⟩
    obtain ⟨links, ends, hlinks, hends, -⟩ := build_eq_ok h
    exact ⟨⟨links, hlinks⟩, ends, hends⟩
  · rintro ⟨⟨links, hlinks⟩, ends, hends⟩
    refine ⟨_, bind_eq_ok.mpr ⟨links, hlinks, bind_eq_ok.mpr ⟨ends, hends, rfl⟩⟩⟩

/-- A description is refused exactly if it is malformed. -/
theorem exists_build_error_iff : (∃ fault, build n edges endpoints = .error fault) ↔
    (∃ e ∈ edges, e.1 = e.2) ∨ (∃ e ∈ edges, n.toNat ≤ e.1.toNat ∨ n.toNat ≤ e.2.toNat) ∨
      (∃ (i j : ℕ) (e f : Edge), i ≠ j ∧ edges[i]? = some e ∧ edges[j]? = some f ∧
        s(e.1, e.2) = s(f.1, f.2)) ∨
      ∃ v ∈ endpoints, n.toNat ≤ v.toNat := by
  have hnot : (∃ fault, build n edges endpoints = .error fault) ↔
      ¬ ∃ t, build n edges endpoints = .ok t := by
    cases build n edges endpoints with
    | error fault => simp
    | ok t => simp
  rw [hnot, exists_build_iff, faultless_iff, pairwise_ends_iff, ← not_iff_not, not_not]
  simp only [not_or, not_exists, not_and, not_le, ne_eq, forall_and, and_assoc]

/-- **What is reported is the first fault.** -/
theorem build_eq_error_iff :
    build n edges endpoints = .error fault ↔ FirstFault n edges endpoints fault := by
  rw [build, bind_eq_error, foldlM_addEdge_eq_error_iff]
  constructor
  · rintro (⟨before, e, after, hsplit, hbefore, hfault⟩ | ⟨links, hlinks, h⟩)
    · exact .edge before after e fault hsplit hbefore hfault
    · -- all edges are good, and nothing can fail behind the endpoints
      have hedges := exists_foldlM_addEdge_iff.mp ⟨links, hlinks⟩
      rcases bind_eq_error.mp h with h | ⟨ends, -, h⟩
      · obtain ⟨before, v, after, hsplit, hbefore, hv, rfl⟩ := foldlM_addEndpoint_eq_error_iff.mp h
        exact .endpoint before after v hedges hsplit hbefore hv
      · exact absurd h (by simp [pure, Except.pure])
  · intro h
    cases h with
    | edge before after e _ hsplit hbefore hfault =>
        exact Or.inl ⟨before, e, after, hsplit, hbefore, hfault⟩
    | endpoint before after v hedges hsplit hbefore hv =>
        obtain ⟨links, hlinks⟩ := exists_foldlM_addEdge_iff.mpr hedges
        refine Or.inr ⟨links, hlinks, bind_eq_error.mpr (Or.inl ?_)⟩
        exact foldlM_addEndpoint_eq_error_iff.mpr ⟨before, v, after, hsplit, hbefore, hv, rfl⟩

end Topology

end Multipath
