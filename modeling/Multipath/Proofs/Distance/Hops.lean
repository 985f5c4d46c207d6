import Mathlib.Data.ENat.Basic
import Multipath.Distance

/-!
# Distances as numbers of hops

`Distance.hops` reads a 32-bit distance as the number of hops that it stands for, `⊤` for
`Distance.unreachable`.  The order of the words is the order of these numbers.  Their sum is not the
sum of these numbers, because it is cut off; `le_hops_add` and `hops_add_le` say between which
bounds it stays, and that is all that the rounds need.
-/

namespace Multipath.Distance

/-- The number of hops that a distance stands for. -/
def hops (x : Distance) : ℕ∞ :=
  if x = unreachable then ⊤ else (x.toNat : ℕ∞)

@[simp] theorem hops_unreachable : hops unreachable = ⊤ := by
  simp [hops]

@[simp] theorem hops_zero : hops 0 = 0 := by
  simp [hops, unreachable]

@[simp] theorem hops_one : hops 1 = 1 := by
  simp [hops, unreachable]

theorem hops_of_ne {x : Distance} (h : x ≠ unreachable) : hops x = x.toNat := by
  simp [hops, h]

theorem hops_eq_top_iff {x : Distance} : hops x = ⊤ ↔ x = unreachable := by
  unfold hops
  split_ifs with h <;> simp [h]

theorem hops_eq_coe_iff {x : Distance} {m : ℕ} :
    hops x = m ↔ x ≠ unreachable ∧ x.toNat = m := by
  unfold hops
  split_ifs with h <;> simp [h]

theorem toNat_unreachable : unreachable.toNat = 2 ^ 32 - 1 := rfl

theorem toNat_lt_unreachable {x : Distance} (h : x ≠ unreachable) : x.toNat < 2 ^ 32 - 1 := by
  have hne : x.toNat ≠ 2 ^ 32 - 1 := fun heq =>
    h (UInt32.toNat_inj.mp (heq.trans toNat_unreachable.symm))
  have hlt := x.toNat_lt
  omega

theorem hops_lt_hops {x y : Distance} : hops x < hops y ↔ x < y := by
  rw [UInt32.lt_iff_toNat_lt]
  by_cases hx : x = unreachable
  · have hy := y.toNat_lt
    subst hx
    simp only [hops_unreachable, not_top_lt, toNat_unreachable, false_iff]
    omega
  · have hxlt := toNat_lt_unreachable hx
    by_cases hy : y = unreachable
    · subst hy
      simpa [hops, hx, toNat_unreachable] using hxlt
    · simp [hops, hx, hy]

theorem isOneCloser_iff {closer farther : Distance} :
    isOneCloser closer farther = true ↔ ∃ m : ℕ, hops closer = m ∧ hops farther = (m + 1 : ℕ) := by
  simp only [isOneCloser, Bool.and_eq_true, bne_iff_ne, beq_iff_eq, hops_eq_coe_iff]
  constructor
  · rintro ⟨⟨hfin, hpos⟩, rfl⟩
    have hlt := toNat_lt_unreachable hfin
    have hnat : farther.toNat ≠ 0 := fun h => hpos (UInt32.toNat_inj.mp h)
    have hle : (1 : UInt32) ≤ farther := UInt32.le_iff_toNat_le.mpr (Nat.pos_of_ne_zero hnat)
    have hsub : (farther - 1).toNat = farther.toNat - 1 := UInt32.toNat_sub_of_le _ _ hle
    refine ⟨_, ⟨?_, rfl⟩, hfin, by omega⟩
    intro heq
    rw [heq, toNat_unreachable] at hsub
    omega
  · rintro ⟨m, ⟨-, hm⟩, hfin, hsucc⟩
    have hle : (1 : UInt32) ≤ farther :=
      UInt32.le_iff_toNat_le.mpr (hsucc ▸ Nat.succ_pos m)
    refine ⟨⟨hfin, ?_⟩, UInt32.toNat_inj.mp ?_⟩
    · intro h0
      rw [h0] at hsucc
      exact absurd hsucc (Nat.succ_ne_zero m).symm
    · rw [UInt32.toNat_sub_of_le _ _ hle, hsucc, hm]
      rfl

/-! ### The cut-off sum -/

theorem toNat_add {x y : Distance} (hx : x ≠ unreachable) (hy : y ≠ unreachable) :
    (add x y).toNat = min (2 ^ 32 - 2) (x.toNat + y.toNat) := by
  rw [add, if_neg (not_or.mpr ⟨hx, hy⟩), toNat_unreachable]
  exact UInt32.toNat_ofNat_of_lt' ((Nat.min_le_left _ _).trans_lt (by decide))

theorem add_ne_unreachable {x y : Distance} (hx : x ≠ unreachable) (hy : y ≠ unreachable) :
    add x y ≠ unreachable := by
  intro heq
  have hval := toNat_add hx hy
  rw [heq, toNat_unreachable] at hval
  omega

/-- A shorter way never costs more than the cut-off sum of its legs. -/
theorem le_hops_add {x y : Distance} {m : ℕ∞} (h : m ≤ hops x + hops y)
    (hm : ∀ l : ℕ, m = l → l < 2 ^ 32 - 1) : m ≤ hops (add x y) := by
  by_cases hxy : x = unreachable ∨ y = unreachable
  · rw [add, if_pos hxy, hops_unreachable]
    exact le_top
  · obtain ⟨hx, hy⟩ := not_or.mp hxy
    rw [hops_of_ne hx, hops_of_ne hy, ← Nat.cast_add] at h
    obtain ⟨l, rfl⟩ := ENat.ne_top_iff_exists.mp (ne_top_of_le_ne_top (ENat.natCast_ne_top _) h)
    have hl := hm l rfl
    have hsum : l ≤ x.toNat + y.toNat := by exact_mod_cast h
    rw [hops_of_ne (add_ne_unreachable hx hy), toNat_add hx hy]
    exact_mod_cast Nat.le_min.mpr ⟨by omega, hsum⟩

theorem hops_add_le (x y : Distance) : hops (add x y) ≤ hops x + hops y := by
  by_cases hxy : x = unreachable ∨ y = unreachable
  · rcases hxy with rfl | rfl <;> simp
  · obtain ⟨hx, hy⟩ := not_or.mp hxy
    rw [hops_of_ne hx, hops_of_ne hy, hops_of_ne (add_ne_unreachable hx hy), toNat_add hx hy]
    exact_mod_cast Nat.min_le_right _ _

end Multipath.Distance
