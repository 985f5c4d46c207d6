import Multipath.Proofs.Network.Wiring

/-!
# The links of a node

`InterfaceMap.ofEdges` succeeds if there is one pair of numbers for each edge and none of the node's
own numbers is that of loop-back.  Then the map leads to a neighbour over exactly the interface that
is joined to it (`ofEdges_total`).  The same is known of every map that was made, wherever the numbers
came from (`linkTo_iff_of_ofEdges`), and it leads to all neighbours (`exists_linkTo_of_ofEdges`).
-/

namespace Multipath

variable {t : Topology} {v y : NodeId} {k k' : UInt32} {e : Edge} {numbers : UInt32 × UInt32}
variable {side side' : Edge × (UInt32 × UInt32)} {indices : Array (UInt32 × UInt32)}

theorem ends_iff : Ends side ⟨v, k⟩ ⟨y, k'⟩ ↔
    side = ((v, y), (k, k')) ∨ side = ((y, v), (k', k)) := by
  obtain ⟨⟨a, b⟩, ka, kb⟩ := side
  simp only [Ends, LinkEnd.mk.injEq, Prod.mk.injEq]
  constructor
  · rintro (⟨⟨rfl, rfl⟩, rfl, rfl⟩ | ⟨⟨rfl, rfl⟩, rfl, rfl⟩)
    · exact Or.inl ⟨⟨rfl, rfl⟩, rfl, rfl⟩
    · exact Or.inr ⟨⟨rfl, rfl⟩, rfl, rfl⟩
  · rintro (⟨⟨rfl, rfl⟩, rfl, rfl⟩ | ⟨⟨rfl, rfl⟩, rfl, rfl⟩)
    · exact Or.inl ⟨⟨rfl, rfl⟩, rfl, rfl⟩
    · exact Or.inr ⟨⟨rfl, rfl⟩, rfl, rfl⟩

/-- Two nodes are joined by one edge only, and it is known which way round it stands. -/
theorem edge_eq_of_ends {k₁ k₁' : UInt32} (hlt : side.1.1 < side.1.2) (hlt' : side'.1.1 < side'.1.2)
    (hends : Ends side ⟨v, k⟩ ⟨y, k'⟩) (hends' : Ends side' ⟨v, k₁⟩ ⟨y, k₁'⟩) :
    side.1 = side'.1 := by
  rw [UInt32.lt_iff_toNat_lt] at hlt hlt'
  rcases ends_iff.mp hends with rfl | rfl <;> rcases ends_iff.mp hends' with rfl | rfl
  · rfl
  · simp only at hlt hlt'
    omega
  · simp only at hlt hlt'
    omega
  · rfl

/-- No link leads to a node that is no neighbour. -/
theorem eq_none_of_not_adj {link : Option LinkIndex} (h : t.Consistent)
    (hlink : ∀ l, link = some l → ∃ k', Joined t indices ⟨v, l.val⟩ ⟨y, k'⟩)
    (hadj : ¬ t.graph.Adj v y) : link = none := by
  rw [Option.eq_none_iff_forall_ne_some]
  intro l hl
  obtain ⟨k', hj⟩ := hlink l hl
  exact hadj (hj.adj h)

theorem LinkIndex.val_inj {l l' : LinkIndex} : l.val = l'.val ↔ l = l' := by
  cases l
  cases l'
  simp

namespace InterfaceMap

theorem ownSide_eq_some (hne : e.1 ≠ e.2) :
    ownSide v e numbers = some (y, k) ↔ ∃ k', Ends (e, numbers) ⟨v, k⟩ ⟨y, k'⟩ := by
  obtain ⟨a, b⟩ := e
  obtain ⟨ka, kb⟩ := numbers
  simp only [ends_iff, Prod.mk.injEq]
  unfold ownSide
  by_cases ha : a = v
  · -- the first end is looked at first, and the second cannot be the same node
    subst ha
    have hb : b ≠ a := Ne.symm hne
    rw [if_pos rfl]
    constructor
    · intro h
      obtain ⟨rfl, rfl⟩ := Prod.mk.inj (Option.some.inj h)
      exact ⟨kb, Or.inl ⟨⟨rfl, rfl⟩, rfl, rfl⟩⟩
    · rintro ⟨k', ⟨⟨-, rfl⟩, rfl, -⟩ | ⟨⟨-, hba⟩, -⟩⟩
      · rfl
      · exact absurd hba hb
  · rw [if_neg ha]
    by_cases hb : b = v
    · subst hb
      rw [if_pos rfl]
      constructor
      · intro h
        obtain ⟨rfl, rfl⟩ := Prod.mk.inj (Option.some.inj h)
        exact ⟨ka, Or.inr ⟨⟨rfl, rfl⟩, rfl, rfl⟩⟩
      · rintro ⟨k', ⟨⟨hav, -⟩, -⟩ | ⟨⟨rfl, -⟩, -, rfl⟩⟩
        · exact absurd hav ha
        · rfl
    · rw [if_neg hb]
      refine iff_of_false (by simp) ?_
      rintro ⟨k', ⟨⟨hav, -⟩, -⟩ | ⟨⟨-, hbv⟩, -⟩⟩
      · exact ha hav
      · exact hb hbv

/-- A node stands on one side of an edge only, which leads it to one node over one interface. -/
theorem ends_unique {z : NodeId} {k₁ k₁' : UInt32} (hne : side.1.1 ≠ side.1.2)
    (h : Ends side ⟨v, k⟩ ⟨y, k'⟩) (h' : Ends side ⟨v, k₁⟩ ⟨z, k₁'⟩) : y = z ∧ k = k₁ := by
  have hown : ownSide v side.1 side.2 = some (y, k) := (ownSide_eq_some hne).mpr ⟨k', h⟩
  have hown' : ownSide v side.1 side.2 = some (z, k₁) := (ownSide_eq_some hne).mpr ⟨k₁', h'⟩
  exact Prod.mk.inj (Option.some.inj (hown.symm.trans hown'))

/-- The table of the links of `v` behind a part of the edges. -/
structure Tabulated (n : ℕ) (v : NodeId) (done : List (Edge × (UInt32 × UInt32)))
    (links : Array (Option LinkIndex)) : Prop where
  size_eq : links.size = n
  join_iff : ∀ (y : NodeId) (l : LinkIndex), links[y.toNat]?.join = some l ↔
    ∃ side ∈ done, ∃ k', Ends side ⟨v, l.val⟩ ⟨y, k'⟩

theorem tabulated_nil (n : ℕ) (v : NodeId) : Tabulated n v [] (Array.replicate n none) := by
  refine ⟨Array.size_replicate, fun y l => iff_of_false ?_ (by simp)⟩
  rw [Array.getElem?_replicate]
  split <;> simp

namespace Tabulated

variable {n : ℕ} {done : List (Edge × (UInt32 × UInt32))} {links : Array (Option LinkIndex)}
variable {z : NodeId} {l : LinkIndex}

/-- An edge between two other nodes leaves the table as it is. -/
theorem skip (hdone : Tabulated n v done links) (hout : ∀ y k k', ¬ Ends side ⟨v, k⟩ ⟨y, k'⟩) :
    Tabulated n v (done ++ [side]) links := by
  refine ⟨hdone.size_eq, ?_⟩
  intro y l
  simp [hdone.join_iff, or_and_right, exists_or, hout]

/-- An edge of the node leads to a neighbour that no edge before it leads to. -/
theorem set (hdone : Tabulated n v done links)
    (hlt : ∀ side' ∈ done ++ [side], side'.1.1 < side'.1.2)
    (hfresh : ∀ side' ∈ done, side'.1 ≠ side.1) (hends : Ends side ⟨v, l.val⟩ ⟨z, k'⟩)
    (hz : z.toNat < links.size) :
    Tabulated n v (done ++ [side]) (links.set z.toNat (some l) hz) := by
  have hside : side.1.1 < side.1.2 := hlt side (by simp)
  refine ⟨by rw [Array.size_set, hdone.size_eq], ?_⟩
  intro y l'
  rw [Array.getElem?_set]
  by_cases hzy : z = y
  · -- the cell that is written: no older edge says anything about it
    subst hzy
    rw [if_pos rfl, Option.join_some, Option.some.injEq]
    constructor
    · rintro rfl
      exact ⟨side, by simp, k', hends⟩
    · rintro ⟨side', hside', k₁', hends'⟩
      have hedge := edge_eq_of_ends hside (hlt side' hside') hends hends'
      rcases List.mem_append.mp hside' with hold | hlast
      · exact absurd hedge.symm (hfresh side' hold)
      · obtain rfl := List.mem_singleton.mp hlast
        exact LinkIndex.val_inj.mp (ends_unique (UInt32.ne_of_lt hside) hends hends').2
  · -- any other cell: the new edge says nothing about it
    rw [if_neg (fun h => hzy (UInt32.toNat_inj.mp h)), hdone.join_iff]
    constructor
    · rintro ⟨side', hside', k₁', hends'⟩
      exact ⟨side', by simp [hside'], k₁', hends'⟩
    · rintro ⟨side', hside', k₁', hends'⟩
      rcases List.mem_append.mp hside' with hold | hlast
      · exact ⟨side', hold, k₁', hends'⟩
      · obtain rfl := List.mem_singleton.mp hlast
        exact absurd (ends_unique (UInt32.ne_of_lt hside) hends hends').1 hzy

end Tabulated

theorem tabulated_addEdge {n : ℕ} {done : List (Edge × (UInt32 × UInt32))}
    {links : Array (Option LinkIndex)} (hdone : Tabulated n v done links)
    (hlt : ∀ side' ∈ done ++ [side], side'.1.1 < side'.1.2) (hrange : side.1.2.toNat < n)
    (hfresh : ∀ side' ∈ done, side'.1 ≠ side.1)
    (hzero : ∀ y k k', Ends side ⟨v, k⟩ ⟨y, k'⟩ → k ≠ 0) :
    ∃ links', addEdge v links side = .ok links' ∧ Tabulated n v (done ++ [side]) links' := by
  have hside : side.1.1 < side.1.2 := hlt side (by simp)
  have hown : ∀ y k, ownSide v side.1 side.2 = some (y, k) ↔ ∃ k', Ends side ⟨v, k⟩ ⟨y, k'⟩ :=
    fun y k => ownSide_eq_some (UInt32.ne_of_lt hside)
  cases hcase : ownSide v side.1 side.2 with
  | none =>
      refine ⟨links, by rw [addEdge, hcase], hdone.skip ?_⟩
      intro y k k' hends
      rw [(hown y k).mpr ⟨k', hends⟩] at hcase
      exact absurd hcase (by simp)
  | some own =>
      obtain ⟨z, number⟩ := own
      obtain ⟨k', hends⟩ := (hown z number).mp hcase
      have hnumber : number ≠ 0 := hzero z number k' hends
      have hz : z.toNat < links.size := by
        rw [hdone.size_eq]
        rcases hends with ⟨-, hend⟩ | ⟨-, hend⟩
        · obtain rfl : z = side.1.2 := congrArg LinkEnd.node hend
          exact hrange
        · obtain rfl : z = side.1.1 := congrArg LinkEnd.node hend
          exact (UInt32.lt_iff_toNat_lt.mp hside).trans hrange
      refine ⟨links.set z.toNat (some ⟨number, hnumber⟩) hz, ?_, ?_⟩
      · simp [addEdge, hcase, LinkIndex.ofNumber?, hnumber, hz]
      · exact hdone.set hlt hfresh hends hz

/-- As long as none of the node's own numbers is that of loop-back, its edges are entered. -/
theorem exists_foldlM_addEdge (h : t.Consistent) (hsize : indices.size = t.edges.length)
    {part : List (Edge × (UInt32 × UInt32))} (hpart : part <+: t.edges.zip indices.toList)
    (hzero : ∀ side ∈ part, ∀ y k k', Ends side ⟨v, k⟩ ⟨y, k'⟩ → k ≠ 0) :
    ∃ links, part.foldlM (addEdge v) (Array.replicate t.size none) = .ok links ∧
      Tabulated t.size v part links := by
  have hfst : (t.edges.zip indices.toList).map Prod.fst = t.edges :=
    List.map_fst_zip (by simp [hsize])
  have hnodup : ((t.edges.zip indices.toList).map Prod.fst).Nodup := hfst.symm ▸ h.nodup
  refine foldlM_total _ (tabulated_nil t.size v) ?_
  intro done side links hpre hdone
  have hwhole : done ++ [side] <+: t.edges.zip indices.toList := hpre.trans hpart
  have hmem : ∀ side' ∈ done ++ [side], side'.1 ∈ t.edges :=
    fun side' hside' => (List.of_mem_zip (hwhole.subset hside')).1
  refine tabulated_addEdge hdone (fun side' hside' => h.ordered _ (hmem side' hside'))
    (h.inRange _ (hmem side (by simp))) ?_ (hzero side (hpre.subset (by simp)))
  -- no edge is listed twice
  intro side' hside' heq
  have hprefix : ((done ++ [side]).map Prod.fst).Nodup := hnodup.sublist (hwhole.map _).sublist
  rw [List.map_append, List.nodup_append] at hprefix
  exact hprefix.2.2 _ (List.mem_map_of_mem hside') _ (by simp) heq

theorem ofEdges_eq_bind (hsize : indices.size = t.edges.length) (hv : v.toNat < t.size) :
    ofEdges t v indices = (do
      let links ← (t.edges.zip indices.toList).foldlM (addEdge v) (Array.replicate t.size none)
      return ⟨links⟩) := by
  rw [ofEdges, if_neg (not_not.mpr hsize), if_neg (not_le.mpr hv)]

/-- **The map of a node leads to each neighbour over the interface that is joined to it.** -/
theorem ofEdges_total (h : t.Consistent) (hv : v.toNat < t.size)
    (hsize : indices.size = t.edges.length)
    (hzero : ∀ y k k', Joined t indices ⟨v, k⟩ ⟨y, k'⟩ → k ≠ 0) :
    ∃ m, ofEdges t v indices = .ok m ∧ ∀ (y : NodeId) (l : LinkIndex),
      m.linkTo y = some l ↔ ∃ k', Joined t indices ⟨v, l.val⟩ ⟨y, k'⟩ := by
  obtain ⟨links, hlinks, htab⟩ := exists_foldlM_addEdge h hsize (List.prefix_refl _)
    fun side hside y k k' hends => hzero y k k' ⟨side, hside, hends⟩
  refine ⟨⟨links⟩, ?_, ?_⟩
  · rw [ofEdges_eq_bind hsize hv, hlinks]
    rfl
  · intro y l
    rw [linkTo, htab.join_iff]
    constructor
    · rintro ⟨side, hmem, k', hends⟩
      exact ⟨k', side, hmem, hends⟩
    · rintro ⟨k', side, hmem, hends⟩
      exact ⟨side, hmem, k', hends⟩

/-- An edge on which the node would use the number of loop-back is refused. -/
theorem addEdge_eq_reserved {links : Array (Option LinkIndex)} (hne : side.1.1 ≠ side.1.2)
    (hends : Ends side ⟨v, 0⟩ ⟨y, k'⟩) :
    addEdge v links side = .error (.error (.reservedInterface side.1.1 side.1.2)) := by
  have hown : ownSide v side.1 side.2 = some (y, 0) := (ownSide_eq_some hne).mpr ⟨k', hends⟩
  rw [addEdge, hown]
  simp

/-! ### What a map that could be made says about the numbers -/

section Made

variable {m : InterfaceMap} (hm : ofEdges t v indices = .ok m)
include hm

theorem exists_foldlM_of_ofEdges : indices.size = t.edges.length ∧
    ∃ links, (t.edges.zip indices.toList).foldlM (addEdge v) (Array.replicate t.size none) =
      .ok links := by
  unfold ofEdges at hm
  split_ifs at hm with hsize
  obtain ⟨links, hlinks, -⟩ := bind_eq_ok.mp hm
  exact ⟨not_not.mp hsize, links, hlinks⟩

/-- None of the node's own numbers is that of loop-back, or the map would have been refused. -/
theorem ne_zero_of_ofEdges (h : t.Consistent) (hj : Joined t indices ⟨v, k⟩ ⟨y, k'⟩) : k ≠ 0 := by
  obtain ⟨-, links, hlinks⟩ := exists_foldlM_of_ofEdges hm
  have hall : ∀ side ∈ t.edges.zip indices.toList, ∀ y k k', Ends side ⟨v, k⟩ ⟨y, k'⟩ → k ≠ 0 := by
    refine foldlM_invariant (fun done _ => ∀ side ∈ done, ∀ y k k',
      Ends side ⟨v, k⟩ ⟨y, k'⟩ → k ≠ 0) hlinks (by simp) ?_
    rintro done side links links' hpre hdone hstep side' hside' y k k' hends rfl
    rcases List.mem_append.mp hside' with hold | hlast
    · exact hdone side' hold y 0 k' hends rfl
    · -- the edge that has just been entered: with the number 0 this would have failed
      obtain rfl := List.mem_singleton.mp hlast
      have he : side'.1 ∈ t.edges := (List.of_mem_zip (hpre.subset hside')).1
      rw [addEdge_eq_reserved (h.fst_ne_snd he) hends] at hstep
      exact absurd hstep (by simp)
  obtain ⟨side, hmem, hends⟩ := hj
  exact hall side hmem y k k' hends

theorem linkTo_iff_of_ofEdges (h : t.Consistent) (hv : v.toNat < t.size) (y : NodeId)
    (l : LinkIndex) : m.linkTo y = some l ↔ ∃ k', Joined t indices ⟨v, l.val⟩ ⟨y, k'⟩ := by
  obtain ⟨m', hm', hlink⟩ := ofEdges_total h hv (exists_foldlM_of_ofEdges hm).1
    fun _ _ _ hj => ne_zero_of_ofEdges hm h hj
  obtain rfl : m = m' := Except.ok.inj (hm.symm.trans hm')
  exact hlink y l

/-- The map leads to every neighbour. -/
theorem exists_linkTo_of_ofEdges (h : t.Consistent) (hv : v.toNat < t.size)
    (hadj : t.graph.Adj v y) : ∃ l, m.linkTo y = some l := by
  obtain ⟨k, k', hj⟩ := exists_joined h (exists_foldlM_of_ofEdges hm).1 hadj
  have hk : k ≠ 0 := ne_zero_of_ofEdges hm h hj
  exact ⟨⟨k, hk⟩, (linkTo_iff_of_ofEdges hm h hv y _).mpr ⟨k', hj⟩⟩

end Made

end InterfaceMap

end Multipath
