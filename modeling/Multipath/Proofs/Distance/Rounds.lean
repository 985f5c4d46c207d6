import Multipath.Distance.Table
import Multipath.Proofs.Distance.Hops
import Multipath.Proofs.Distance.Stopover

/-!
# The rounds of the distance computation

After the rounds `0, …, k - 1`, each cell holds exactly the number of hops of a shortest path whose
stops are numbered below `k` (`Tabulates`).

The rounds work in place, so a cell may be read in its new form where the textbook reads the old one.
It makes no difference: row `k` and column `k` are the same before and after round `k`
(`hopsVia_succ_left`, `hopsVia_succ_right`), and these are the only cells that the round reads.
During the round every cell stays between its old and its new value (`Between`); a cell that the
round is done with has the new one.
-/

namespace Multipath.DistanceTable

variable {n : ℕ} {G : SimpleGraph NodeId} {k i j i' j' : Fin n} {cells : Vector Distance (n * n)}

/-- The node with a given number. -/
def node (i : Fin n) : NodeId :=
  UInt32.ofNat i.val

theorem toNat_node (hn : n < 2 ^ 32) (i : Fin n) : (node i).toNat = i.val :=
  UInt32.toNat_ofNat_of_lt' (i.isLt.trans hn)

/-- The number of hops from `i` to `j` that a table holds. -/
def cell (cells : Vector Distance (n * n)) (i j : Fin n) : ℕ∞ :=
  (cells.get (position i j)).hops

/-- The table holds shortest paths with stops below `k`. -/
def Tabulates (G : SimpleGraph NodeId) (k : ℕ) (cells : Vector Distance (n * n)) : Prop :=
  ∀ i j, cell cells i j = hopsVia G k (node i) (node j)

/-! ### Single cells -/

theorem position_inj : position i j = position i' j' ↔ i = i' ∧ j = j' := by
  constructor
  · intro h
    have hval : n * i.val + j.val = n * i'.val + j'.val := congrArg Fin.val h
    have hpos : 0 < n := i.pos
    have hi : i.val = i'.val := by
      have hdiv := congrArg (· / n) hval
      simpa [Nat.mul_add_div hpos, Nat.div_eq_of_lt j.isLt, Nat.div_eq_of_lt j'.isLt] using hdiv
    rw [hi] at hval
    exact ⟨Fin.ext hi, Fin.ext (by omega)⟩
  · rintro ⟨rfl, rfl⟩
    rfl

theorem get_set_position (x : Distance) :
    (cells.set (position i j).val x (position i j).isLt).get (position i' j') =
      if i' = i ∧ j' = j then x else cells.get (position i' j') := by
  have hpos : (position i j).val = (position i' j').val ↔ i' = i ∧ j' = j := by
    rw [Fin.val_inj, position_inj, eq_comm, eq_comm (a := j)]
  show (cells.set (position i j).val x (position i j).isLt)[(position i' j').val] = _
  rw [Vector.getElem_set]
  simp only [hpos]
  rfl

theorem cell_relax (toStop : Distance) :
    cell (relax k i toStop cells j) i' j' =
      if i' = i ∧ j' = j then
        min (cell cells i j) (Distance.add toStop (cells.get (position k j))).hops
      else cell cells i' j' := by
  unfold relax cell
  simp only
  split_ifs with hlt hij hij
  · -- the sum is smaller, and is written
    rw [get_set_position, if_pos hij]
    exact (min_eq_right (Distance.hops_lt_hops.mpr hlt).le).symm
  · rw [get_set_position, if_neg hij]
  · obtain ⟨rfl, rfl⟩ := hij
    exact (min_eq_left (not_lt.mp fun h => hlt (Distance.hops_lt_hops.mp h))).symm
  · rfl

/-! ### Row and column of the new stop -/

theorem hopsVia_succ_left (hn : n < 2 ^ 32) :
    hopsVia G (k + 1) (node i) (node k) = hopsVia G k (node i) (node k) := by
  rw [hopsVia_succ (toNat_node hn k), hopsVia_self, add_zero, min_self]

theorem hopsVia_succ_right (hn : n < 2 ^ 32) :
    hopsVia G (k + 1) (node k) (node j) = hopsVia G k (node k) (node j) := by
  rw [hopsVia_succ (toNat_node hn k), hopsVia_self, zero_add, min_self]

/-! ### One round -/

/-- The table in the middle of round `k`, which is done with the cells `done`. -/
structure Between (G : SimpleGraph NodeId) (k : Fin n) (done : Fin n → Fin n → Prop)
    (cells : Vector Distance (n * n)) : Prop where
  lower : ∀ i j, hopsVia G (k + 1) (node i) (node j) ≤ cell cells i j
  upper : ∀ i j, cell cells i j ≤ hopsVia G k (node i) (node j)
  lowered : ∀ i j, done i j → cell cells i j ≤ hopsVia G (k + 1) (node i) (node j)

namespace Between

variable {done done' : Fin n → Fin n → Prop}

theorem mono (h : Between G k done cells) (hd : ∀ i j, done' i j → done i j) :
    Between G k done' cells :=
  ⟨h.lower, h.upper, fun i j hij => h.lowered i j (hd i j hij)⟩

theorem cell_left (hn : n < 2 ^ 32) (h : Between G k done cells) (i : Fin n) :
    cell cells i k = hopsVia G k (node i) (node k) :=
  le_antisymm (h.upper i k) (hopsVia_succ_left hn ▸ h.lower i k)

theorem cell_right (hn : n < 2 ^ 32) (h : Between G k done cells) (j : Fin n) :
    cell cells k j = hopsVia G k (node k) (node j) :=
  le_antisymm (h.upper k j) (hopsVia_succ_right hn ▸ h.lower k j)

end Between

theorem between_of_tabulates (hn : n < 2 ^ 32) (h : Tabulates G k cells) :
    Between G k (fun _ _ => False) cells := by
  refine ⟨?_, fun i j => (h i j).le, fun _ _ hf => hf.elim⟩
  intro i j
  rw [h i j, hopsVia_succ (toNat_node hn k)]
  exact min_le_left _ _

theorem tabulates_of_between (h : Between G k (fun _ _ => True) cells) :
    Tabulates G (k + 1) cells :=
  fun i j => le_antisymm (h.lowered i j trivial) (h.lower i j)

variable (hn : n < 2 ^ 32) (hG : ∀ a b, G.Adj a b → b.toNat < n)
include hn hG

theorem between_relax {toStop : Distance} {done : Fin n → Fin n → Prop}
    (h : Between G k done cells) (hstop : toStop.hops = hopsVia G k (node i) (node k)) :
    Between G k (fun i' j' => done i' j' ∨ i' = i ∧ j' = j) (relax k i toStop cells j) := by
  have hvia : hopsVia G (k + 1) (node i) (node j) =
      min (hopsVia G k (node i) (node j)) (toStop.hops + cell cells k j) := by
    rw [hopsVia_succ (toNat_node hn k), hstop, h.cell_right hn]
  have hfinite : ∀ l : ℕ, hopsVia G (k + 1) (node i) (node j) = l → l < 2 ^ 32 - 1 := by
    intro l hl
    have hlt := lt_of_hopsVia_eq hG ((toNat_node hn i).trans_lt i.isLt) hl
    omega
  refine ⟨?_, ?_, ?_⟩
  · -- cutting the sum off does no harm, as every path is shorter than the bound
    intro i' j'
    rw [cell_relax]
    split_ifs with heq
    · obtain ⟨rfl, rfl⟩ := heq
      refine le_min (h.lower _ _) (Distance.le_hops_add ?_ hfinite)
      exact hvia.trans_le (min_le_right _ _)
    · exact h.lower i' j'
  · intro i' j'
    rw [cell_relax]
    split_ifs with heq
    · obtain ⟨rfl, rfl⟩ := heq
      exact (min_le_left _ _).trans (h.upper _ _)
    · exact h.upper i' j'
  · intro i' j' hij
    rw [cell_relax]
    split_ifs with heq
    · obtain ⟨rfl, rfl⟩ := heq
      rw [hvia]
      exact min_le_min (h.upper _ _) (Distance.hops_add_le _ _)
    · exact h.lowered i' j' (hij.resolve_right heq)

theorem between_relaxRow {done : Fin n → Fin n → Prop} (h : Between G k done cells)
    (i : Fin n) :
    Between G k (fun i' j' => done i' j' ∨ i' = i) (relaxRow k cells i) := by
  have hstop : (cells.get (position i k)).hops = hopsVia G k (node i) (node k) :=
    h.cell_left hn i
  unfold relaxRow
  simp only
  split_ifs with hskip
  · -- the row is skipped: there is no way from `i` to `k`, so nothing changes in this round
    refine ⟨h.lower, h.upper, ?_⟩
    intro i' j' hij
    rcases hij with hij | rfl
    · exact h.lowered i' j' hij
    · refine (h.upper i' j').trans (le_of_eq ?_)
      rw [hopsVia_succ (toNat_node hn k), ← hstop, hskip, Distance.hops_unreachable, top_add,
        min_eq_left le_top]
  · have hrow := foldl_invariant
      (fun js cells' => Between G k (fun i' j' => done i' j' ∨ i' = i ∧ j' ∈ js) cells')
      (f := relax k i (cells.get (position i k))) (l := List.finRange n) (b := cells) ?_ ?_
    · refine hrow.mono ?_
      intro i' j' hij
      simpa using hij
    · refine h.mono ?_
      intro i' j' hij
      simpa using hij
    · -- the value at the stop was read before the row changed, and is still right
      intro js j cells' _ hjs
      refine (between_relax hn hG hjs hstop).mono ?_
      intro i' j' hij
      simp only [List.mem_append, List.mem_singleton] at hij
      tauto

/-- **One round.**  It allows exactly one more stop. -/
theorem tabulates_relaxRound (h : Tabulates G k cells) :
    Tabulates G (k + 1) (relaxRound cells k) := by
  have hround := foldl_invariant
    (fun is cells' => Between G k (fun i' _ => i' ∈ is) cells')
    (f := relaxRow k) (l := List.finRange n) (b := cells) ?_ ?_
  · refine tabulates_of_between (hround.mono ?_)
    intro i' _ _
    exact List.mem_finRange i'
  · refine (between_of_tabulates hn h).mono ?_
    intro i' j' hij
    simp at hij
  · intro is i cells' _ his
    refine (between_relaxRow hn hG his i).mono ?_
    intro i' j' hij
    simpa using hij

omit hn hG in
theorem val_eq_length_of_prefix {done : List (Fin n)} (h : done ++ [k] <+: List.finRange n) :
    k.val = done.length := by
  obtain ⟨_, hget⟩ := List.getElem?_eq_some_iff.mp (getElem?_of_prefix_concat h)
  simpa using (congrArg Fin.val hget).symm

/-- The rounds so far allow the stops so far. -/
theorem tabulates_rounds {rounds : List (Fin n)} (hpre : rounds <+: List.finRange n)
    (h : Tabulates G 0 cells) : Tabulates G rounds.length (rounds.foldl relaxRound cells) := by
  refine foldl_invariant (fun done cells' => Tabulates G done.length cells') h ?_
  intro done k cells' hdone htab
  have hk := val_eq_length_of_prefix (hdone.trans hpre)
  rw [List.length_append, List.length_singleton, ← hk]
  exact tabulates_relaxRound hn hG (hk ▸ htab)

/-! ### The textbook rounds -/

omit hn hG

open Classical in
/-- The number of hops between neighbours, and none elsewhere. -/
noncomputable def idealStart (G : SimpleGraph NodeId) (i j : Fin n) : ℕ∞ :=
  if i = j then 0 else if G.Adj (node i) (node j) then 1 else ⊤

/-- A round as it stands in textbooks: every sum is exact, every cell is looked at, and the new
table is made from the old one alone. -/
noncomputable def idealRound (old : Fin n → Fin n → ℕ∞) (k : Fin n) (i j : Fin n) : ℕ∞ :=
  min (old i j) (old i k + old k j)

theorem node_inj (hn : n < 2 ^ 32) : node i = node j ↔ i = j := by
  rw [← UInt32.toNat_inj, toNat_node hn, toNat_node hn, Fin.val_inj]

theorem idealStart_eq (hn : n < 2 ^ 32) :
    idealStart G i j = hopsVia G 0 (node i) (node j) := by
  unfold idealStart
  split_ifs with hij hadj
  · rw [hij, hopsVia_self]
  · exact (hopsVia_zero_of_adj hadj).symm
  · exact (hopsVia_zero_eq_top (fun h => hij ((node_inj hn).mp h)) hadj).symm

theorem foldl_idealRound (hn : n < 2 ^ 32) {rounds : List (Fin n)}
    (hpre : rounds <+: List.finRange n) :
    ∀ i j, rounds.foldl idealRound (idealStart G) i j =
      hopsVia G rounds.length (node i) (node j) := by
  refine foldl_invariant
    (fun done (f : Fin n → Fin n → ℕ∞) =>
      ∀ i j, f i j = hopsVia G done.length (node i) (node j))
    (fun i j => idealStart_eq hn) ?_
  intro done k f hdone hf i j
  have hk := val_eq_length_of_prefix (hdone.trans hpre)
  rw [List.length_append, List.length_singleton, idealRound, hf, hf, hf,
    hopsVia_succ ((toNat_node hn k).trans hk)]

end Multipath.DistanceTable
