import Multipath.Router.Basic

/-!
# What the operations of a router do

An operation that may be refused first looks at the router, and it changes the router only when all
checks are passed.  One equation says this of each operation (`run_addAddress`, `run_bringUp`): every
refusal ends with the router from the beginning.

An operation that is made of others goes on with the router that the one before has left.  For such
operations it is enough to know the router that comes out when none of them is refused (`outcome`),
and this is found part by part (`outcome_bind`, `outcome_forM`).
-/

namespace Multipath.Router

variable {π α : Type} {i : UInt32} {address : InterfaceAddress} {r : Router π} {x : Interface}

/-! ### One operation -/

/-- Looking at the router does not change it, whatever is found. -/
theorem run_read (look : Router π → Except RoutingError α) (next : α → Operation π Unit)
    (r : Router π) : (do next (← MonadExcept.ofExcept (look (← get))) : Operation π Unit).run r =
      match look r with
      | .ok a => (next a).run r
      | .error e => .error e r := by
  show EStateM.bind (MonadExcept.ofExcept (look r)) next r = _
  cases look r with
  | ok a => rfl
  | error e => rfl

/-- The address is set at an interface that is there and down. -/
theorem run_addAddress (r : Router π) : (addAddress i address).run r =
    match r.interfaces[i.toNat]? with
    | none => .error (.noSuchInterface i) r
    | some x =>
      if x.up then .error (.addAddressAfterUp i) r
      else .ok () (r.update i ({ · with address := some address })) := by
  rw [addAddress]
  refine (run_read (·.interface i) _ r).trans ?_
  rw [interface]
  cases r.interfaces[i.toNat]? with
  | none => rfl
  | some x =>
      dsimp only
      split <;> rfl

/-- An interface goes up if it is there and has an address that passes the check. -/
theorem run_bringUp (r : Router π) : (bringUp i).run r =
    match r.interfaces[i.toNat]? with
    | none => .error (.noSuchInterface i) r
    | some x =>
      match x.address with
      | none => .error (.missingAddress i) r
      | some address =>
        match checkAddress i address with
        | .error e => .error e r
        | .ok _ => .ok () (r.update i ({ · with up := true })) := by
  rw [bringUp]
  refine (run_read (·.interface i) _ r).trans ?_
  rw [interface]
  cases r.interfaces[i.toNat]? with
  | none => rfl
  | some x =>
      dsimp only
      cases x.address with
      | none => rfl
      | some address =>
          cases hcheck : checkAddress i address with
          | ok _ => simp only [hcheck]; rfl
          | error e => simp only [hcheck]; rfl

/-- Either the address is set, or everything is as before. -/
theorem run_addAddress_cases (r : Router π) :
    (∃ x, r.interfaces[i.toNat]? = some x ∧ x.up = false ∧
      (addAddress i address).run r = .ok () (r.update i ({ · with address := some address }))) ∨
    ∃ e, (addAddress i address).run r = .error e r := by
  rw [run_addAddress]
  cases r.interfaces[i.toNat]? with
  | none => exact Or.inr ⟨_, rfl⟩
  | some x =>
      cases hup : x.up with
      | true => exact Or.inr ⟨.addAddressAfterUp i, by simp [hup]⟩
      | false => exact Or.inl ⟨x, rfl, hup, by simp [hup]⟩

/-- Either the interface goes up, or everything is as before. -/
theorem run_bringUp_cases (r : Router π) :
    (∃ x a, r.interfaces[i.toNat]? = some x ∧ x.address = some a ∧ checkAddress i a = .ok () ∧
      (bringUp i).run r = .ok () (r.update i ({ · with up := true }))) ∨
    ∃ e, (bringUp i).run r = .error e r := by
  rw [run_bringUp]
  cases r.interfaces[i.toNat]? with
  | none => exact Or.inr ⟨_, rfl⟩
  | some x =>
      cases ha : x.address with
      | none => exact Or.inr ⟨.missingAddress i, by simp [ha]⟩
      | some a =>
          cases hcheck : checkAddress i a with
          | error e => exact Or.inr ⟨e, by simp [ha, hcheck]⟩
          | ok _ => exact Or.inl ⟨x, a, rfl, ha, hcheck, by simp [ha, hcheck]⟩

theorem outcome_addAddress (hx : r.interfaces[i.toNat]? = some x) (hdown : x.up = false) :
    outcome (addAddress i address) r =
      .ok (r.update i ({ · with address := some address })) := by
  rw [outcome, run_addAddress, hx]
  simp only [hdown, Bool.false_eq_true, if_false]

theorem outcome_bringUp (hx : r.interfaces[i.toNat]? = some x) (ha : x.address = some address) :
    outcome (bringUp i) r =
      checkAddress i address >>= fun _ => .ok (r.update i ({ · with up := true })) := by
  rw [outcome, run_bringUp, hx]
  simp only [ha]
  cases checkAddress i address with
  | ok _ => rfl
  | error e => rfl

/-! ### One after the other -/

theorem outcome_bind (x y : Operation π Unit) (r : Router π) :
    outcome (x >>= fun _ => y) r = outcome x r >>= outcome y := by
  have hrun : (x >>= fun _ => y).run r = EStateM.bind x (fun _ => y) r := rfl
  rw [outcome, hrun, EStateM.bind, outcome, EStateM.run]
  cases x r with
  | ok _ r' => rfl
  | error e r' => rfl

theorem outcome_forM (f : α → Operation π Unit) (l : List α) (r : Router π) :
    outcome (l.forM f) r = l.foldlM (fun r a => outcome (f a) r) r := by
  induction l generalizing r with
  | nil => rfl
  | cons a l ih =>
      rw [List.foldlM_cons, ← funext ih]
      exact outcome_bind (f a) (l.forM f) r

/-- The new interface has the number that comes next. -/
theorem outcome_addWithAddress (address : InterfaceAddress) (r : Router π) :
    outcome (addWithAddress address) r =
      outcome (addAddress (UInt32.ofNat r.interfaces.size) address)
        { r with interfaces := r.interfaces.push {} } := rfl

end Multipath.Router
