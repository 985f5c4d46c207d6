import Mathlib.Algebra.Order.Group.Nat
import Multipath.Proofs.Folds
import Multipath.Proofs.Router.Operations

/-!
# Setting up a router

`Router.ofAddresses` first adds all interfaces with their addresses and then brings them up in their
order.  `Router.started addresses k` is the router in between, whose first `k` interfaces are up.  If
every address passes its check, the last of these routers is the result (`ofAddresses_eq_ok`).
-/

namespace Multipath.Router

variable {π : Type} {addresses : List InterfaceAddress} {k : ℕ} {ip : Ipv4} {own : Array InterfaceAddress}

/-- The router with the given addresses, whose first `k` interfaces are up. -/
def started (addresses : List InterfaceAddress) (k : ℕ) : Router π where
  interfaces := (addresses.mapIdx fun i a => ⟨some a, decide (i < k)⟩).toArray
  arbiter := none

theorem size_started : (started addresses k : Router π).interfaces.size = addresses.length := by
  simp [started]

theorem getElem?_started (i : ℕ) : (started addresses k : Router π).interfaces[i]? =
    addresses[i]?.map fun a => ⟨some a, decide (i < k)⟩ := by
  simp [started, List.getElem?_mapIdx]

/-! ### Adding the interfaces -/

theorem addWithAddress_started {address : InterfaceAddress} (h : addresses.length < 2 ^ 32)
    (hk : k ≤ addresses.length) :
    outcome (addWithAddress address) (started addresses k : Router π) =
      .ok (started (addresses ++ [address]) k) := by
  have hindex : (UInt32.ofNat addresses.length).toNat = addresses.length :=
    UInt32.toNat_ofNat_of_lt' h
  have hnew : ((started addresses k : Router π).interfaces.push {})[addresses.length]? =
      some {} := by
    rw [← size_started (π := π) (k := k), Array.getElem?_push_size]
  have hset : ((started addresses k : Router π).interfaces.push {}).modify addresses.length
      ({ · with address := some address }) =
        (started (addresses ++ [address]) k : Router π).interfaces := by
    apply Array.ext_getElem?
    intro i
    rw [Array.getElem?_modify, Array.getElem?_push, getElem?_started, getElem?_started,
      size_started, List.getElem?_append]
    rcases Nat.lt_trichotomy i addresses.length with hi | rfl | hi
    · have hne : i ≠ addresses.length := Nat.ne_of_lt hi
      simp [hi, hne, hne.symm]
    · simp [hk]
    · have hne : i ≠ addresses.length := Nat.ne_of_gt hi
      have hrest : [address][i - addresses.length]? = none := by simp; omega
      have hold : addresses[i]? = none := by simp; omega
      rw [if_neg hne.symm, if_neg hne, if_neg (by omega), hold, hrest]
  rw [outcome_addWithAddress, size_started, outcome_addAddress (hindex ▸ hnew) rfl, update, hindex,
    hset]
  rfl

theorem outcome_forM_addWithAddress (h : addresses.length < 2 ^ 32) :
    outcome (addresses.forM addWithAddress) (empty : Router π) = .ok (started addresses 0) := by
  have hstep : ∀ (done : List InterfaceAddress) address (r : Router π),
      done ++ [address] <+: addresses → r = started done 0 →
        ∃ r', outcome (addWithAddress address) r = .ok r' ∧
          r' = started (done ++ [address]) 0 := by
    intro done address r hpre hr
    have hlt : done.length < 2 ^ 32 := Nat.lt_trans (length_lt_of_prefix_concat hpre) h
    exact ⟨_, hr ▸ addWithAddress_started hlt (Nat.zero_le _), rfl⟩
  obtain ⟨r, hr, rfl⟩ := foldlM_total (fun done r => r = started done 0) rfl hstep
  rw [outcome_forM]
  exact hr

/-! ### Bringing them up -/

/-- The next interface goes up if its address passes the check. -/
theorem bringUp_started {address : InterfaceAddress} (h : k < 2 ^ 32)
    (hk : addresses[k]? = some address) :
    outcome (bringUp (UInt32.ofNat k)) (started addresses k : Router π) =
      checkAddress (UInt32.ofNat k) address >>= fun _ => .ok (started addresses (k + 1)) := by
  have hindex : (UInt32.ofNat k).toNat = k := UInt32.toNat_ofNat_of_lt' h
  have hset : (started addresses k : Router π).interfaces.modify k ({ · with up := true }) =
      (started addresses (k + 1) : Router π).interfaces := by
    apply Array.ext_getElem?
    intro i
    rw [Array.getElem?_modify, getElem?_started, getElem?_started]
    by_cases hik : k = i
    · subst hik
      simp [hk]
    · have hiff : i < k ↔ i < k + 1 := by omega
      simp [hik, hiff]
  have hx : (started addresses k : Router π).interfaces[(UInt32.ofNat k).toNat]? =
      some ⟨some address, false⟩ := by
    rw [hindex, getElem?_started, hk]
    simp
  rw [outcome_bringUp hx rfl, update, hindex, hset]
  rfl

theorem started_length : (started addresses addresses.length : Router π) =
    ⟨(addresses.map fun a => ⟨some a, true⟩).toArray, none⟩ := by
  rw [started, List.mapIdx_eq_iff.mpr]
  intro i
  by_cases hi : i < addresses.length
  · simp [hi]
  · simp [Nat.not_lt.mp hi]

/-- All interfaces are added before the first goes up. -/
theorem ofAddresses_eq_foldlM (h : addresses.length < 2 ^ 32) :
    (ofAddresses addresses : Except _ (Router π)) = (List.range addresses.length).foldlM
      (fun r i => outcome (bringUp (UInt32.ofNat i)) r) (started addresses 0) := by
  rw [ofAddresses, setUp, outcome_bind, outcome_forM_addWithAddress h]
  exact outcome_forM (fun i => bringUp (UInt32.ofNat i)) _ _

/-- **A router whose addresses pass their checks has exactly these addresses, and is up.** -/
theorem ofAddresses_eq_ok (h : addresses.length < 2 ^ 32)
    (hcheck : ∀ i address, addresses[i]? = some address →
      checkAddress (UInt32.ofNat i) address = .ok ()) :
    ofAddresses addresses =
      (.ok ⟨(addresses.map fun a => ⟨some a, true⟩).toArray, none⟩ : Except _ (Router π)) := by
  have hstep : ∀ (done : List ℕ) i (r : Router π), done ++ [i] <+: List.range addresses.length →
      r = started addresses done.length →
        ∃ r', outcome (bringUp (UInt32.ofNat i)) r = .ok r' ∧
          r' = started addresses (done ++ [i]).length := by
    intro done i r hpre hr
    -- the interfaces come up in their order
    obtain ⟨hlt, rfl⟩ := List.getElem?_eq_some_iff.mp (getElem?_of_prefix_concat hpre)
    rw [List.length_range] at hlt
    rw [List.getElem_range, hr, List.length_append, List.length_singleton]
    refine ⟨_, ?_, rfl⟩
    rw [bringUp_started (Nat.lt_trans hlt h) (List.getElem?_eq_getElem hlt),
      hcheck _ _ (List.getElem?_eq_getElem hlt)]
    rfl
  obtain ⟨r, hr, rfl⟩ :=
    foldlM_total (fun done r => r = started addresses done.length) rfl hstep
  rw [ofAddresses_eq_foldlM h, ← started_length]
  rw [List.length_range] at hr
  exact hr

end Multipath.Router
