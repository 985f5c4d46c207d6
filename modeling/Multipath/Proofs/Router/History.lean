import Mathlib.Algebra.Order.Group.Nat
import Multipath.Proofs.Folds
import Multipath.Proofs.Router.Operations

/-!
# The history of a router

A router comes into its state by calls (`Call`), each of which is answered (`Reply`), some of them
by a refusal.  What one call can do is said once, in `Router.perform_cases`: it adds an interface,
it sets the arbiter, it changes the one interface that it is about (`Interface.Changes`), or it is
refused and nothing changes.  From this follows what holds after any sequence of calls.

* `sound_after`: an interface that is up has an address of the right kind;
* `getElem?_after_of_up`: an interface that is up stays as it is;
* `size_after`: as many interfaces were added as there are.
-/

namespace Multipath

variable {π : Type}

/-- A call that may change a router. -/
inductive Call (π : Type) where
  | addInterface
  | addAddress (i : UInt32) (address : InterfaceAddress)
  | bringUp (i : UInt32)
  | takeDown (i : UInt32)
  | removeAddress (i : UInt32)
  | setArbiter (arbiter : Arbiter π)

namespace Call

/-- The interface that a call is about.  The call that adds one is not about any that is there. -/
def target? : Call π → Option UInt32
  | addAddress i _ => some i
  | bringUp i => some i
  | takeDown i => some i
  | removeAddress i => some i
  | addInterface => none
  | setArbiter _ => none

/-- Whether a call adds an interface. -/
def adds : Call π → Bool
  | addInterface => true
  | _ => false

theorem adds_eq_false {call : Call π} {i : UInt32} (h : call.target? = some i) :
    call.adds = false := by
  cases call with
  | addInterface => exact absurd h (by simp [target?])
  | _ => rfl

end Call

/-- The answer to a call. -/
inductive Reply where
  /-- The new interface has this number. -/
  | added (number : UInt32)
  | done
  | refused (e : RoutingError)
  deriving DecidableEq

namespace Router

/-- The answer to an operation, with the router that it has left. -/
def answer : EStateM.Result RoutingError (Router π) Unit → Reply × Router π
  | .ok _ r => (.done, r)
  | .error e r => (.refused e, r)

/-- Answers a call. -/
def perform (r : Router π) : Call π → Reply × Router π
  | .addInterface => (.added r.addInterface.1, r.addInterface.2)
  | .addAddress i address => answer ((addAddress i address).run r)
  | .bringUp i => answer ((bringUp i).run r)
  | .takeDown i => answer ((takeDown i).run r)
  | .removeAddress i => answer ((removeAddress i).run r)
  | .setArbiter a => (.done, r.setArbiter a)

/-- The router after a sequence of calls. -/
def after (r : Router π) (calls : List (Call π)) : Router π :=
  calls.foldl (fun r call => (r.perform call).2) r

end Router

/-! ### Interfaces -/

namespace Interface

/-- Interface 0 goes up with the address of loop-back, every other with a prefix of 24 bits. -/
def Admits (number : ℕ) (a : InterfaceAddress) : Prop :=
  (number = 0 → a = ⟨Ipv4.ofOctets 127 0 0 1, 8⟩) ∧ (number ≠ 0 → a.prefixLen = 24)

/-- If the interface is up, then it has an address, and one of the right kind. -/
def Sound (number : ℕ) (x : Interface) : Prop :=
  x.up = true → ∃ a, x.address = some a ∧ Admits number a

/-- What a call that is granted makes of the interface `i`, which it is about. -/
inductive Changes : Call π → UInt32 → Interface → Interface → Prop
  | address (i : UInt32) (a : InterfaceAddress) (x : Interface) : x.up = false →
      Changes (.addAddress i a) i x { x with address := some a }
  | up (i : UInt32) (a : InterfaceAddress) (x : Interface) : x.address = some a →
      Admits i.toNat a → Changes (.bringUp i) i x { x with up := true }

variable {call : Call π} {i : UInt32} {x y : Interface} {a : InterfaceAddress} {number : ℕ}

theorem checkAddress_eq_ok_iff : Router.checkAddress i a = .ok () ↔ Admits i.toNat a := by
  have hzero : i.toNat = 0 ↔ i = 0 := UInt32.toNat_inj (b := 0)
  have hloopback : InterfaceAddress.loopback = ⟨Ipv4.ofOctets 127 0 0 1, 8⟩ := rfl
  have hprefix : InterfaceAddress.linkPrefixLen = 24 := rfl
  rw [Admits, Ne, hzero, Router.checkAddress, hloopback, hprefix]
  split_ifs <;> simp_all

/-- Whatever is up does not change any more. -/
theorem Changes.eq_of_up (h : Changes call i x y) (hup : x.up = true) : y = x := by
  cases h with
  | address _ a _ hdown => exact absurd (hdown.symm.trans hup) (by decide)
  | up => rw [← hup]

theorem Changes.sound (h : Changes call i x y) : y.Sound i.toNat := by
  cases h with
  | address _ a _ hdown =>
      intro hup
      exact absurd (hdown.symm.trans hup) (by decide)
  | up _ a _ haddress hadmits =>
      intro _
      exact ⟨a, haddress, hadmits⟩

theorem sound_new : Sound number {} := by
  intro hup
  exact absurd hup (by decide)

end Interface

namespace Router

open Interface

variable {r r' : Router π} {call : Call π} {calls : List (Call π)} {i : UInt32} {j : ℕ}
variable {x y : Interface} {address : InterfaceAddress} {e : RoutingError}

/-! ### One call -/

/-- **What a call can do.** -/
theorem perform_cases (r : Router π) (call : Call π) :
    (call = .addInterface ∧ r.perform call =
      (.added (UInt32.ofNat r.interfaces.size), { r with interfaces := r.interfaces.push {} })) ∨
    (∃ a, call = .setArbiter a ∧ r.perform call = (.done, { r with arbiter := some a })) ∨
    (∃ i x change, call.target? = some i ∧ r.interfaces[i.toNat]? = some x ∧
      Changes call i x (change x) ∧ r.perform call = (.done, r.update i change)) ∨
    (call.adds = false ∧ ∃ e, r.perform call = (.refused e, r)) := by
  cases call with
  | addInterface => exact Or.inl ⟨rfl, rfl⟩
  | setArbiter a => exact Or.inr (Or.inl ⟨a, rfl, rfl⟩)
  | addAddress i address =>
      rcases run_addAddress_cases r with ⟨x, hx, hdown, hrun⟩ | ⟨e, hrun⟩ <;> rw [perform, hrun]
      · exact Or.inr (Or.inr (Or.inl ⟨i, x, _, rfl, hx, .address i address x hdown, rfl⟩))
      · exact Or.inr (Or.inr (Or.inr ⟨rfl, e, rfl⟩))
  | bringUp i =>
      rcases run_bringUp_cases r with ⟨x, a, hx, ha, hcheck, hrun⟩ | ⟨e, hrun⟩ <;>
        rw [perform, hrun]
      · have hadmits := checkAddress_eq_ok_iff.mp hcheck
        exact Or.inr (Or.inr (Or.inl ⟨i, x, _, rfl, hx, .up i a x ha hadmits, rfl⟩))
      · exact Or.inr (Or.inr (Or.inr ⟨rfl, e, rfl⟩))
  | takeDown i => exact Or.inr (Or.inr (Or.inr ⟨rfl, _, rfl⟩))
  | removeAddress i => exact Or.inr (Or.inr (Or.inr ⟨rfl, _, rfl⟩))

theorem getElem?_update (r : Router π) (i : UInt32) (change : Interface → Interface) (j : ℕ) :
    (r.update i change).interfaces[j]? =
      if i.toNat = j then r.interfaces[j]?.map change else r.interfaces[j]? := by
  rw [update, Array.getElem?_modify]

/-- What a call makes of an interface that is there. -/
theorem exists_getElem?_perform (call : Call π) (hx : r.interfaces[j]? = some x) :
    ∃ y, (r.perform call).2.interfaces[j]? = some y ∧
      (y = x ∨ ∃ i, i.toNat = j ∧ Changes call i x y) := by
  rcases r.perform_cases call with
    ⟨-, hstep⟩ | ⟨a, -, hstep⟩ | ⟨i, x', change, -, hx', hchange, hstep⟩ | ⟨-, e, hstep⟩
  · have hlt : j < r.interfaces.size := (Array.getElem?_eq_some_iff.mp hx).1
    refine ⟨x, ?_, Or.inl rfl⟩
    rw [hstep, Array.getElem?_push_lt hlt, ← Array.getElem?_eq_getElem hlt, hx]
  · exact ⟨x, by rw [hstep, hx], Or.inl rfl⟩
  · rw [hstep, getElem?_update]
    by_cases hij : i.toNat = j
    · subst hij
      obtain rfl : x' = x := Option.some.inj (hx'.symm.trans hx)
      exact ⟨change x', by simp [hx], Or.inr ⟨i, rfl, hchange⟩⟩
    · exact ⟨x, by rw [if_neg hij, hx], Or.inl rfl⟩
  · exact ⟨x, by rw [hstep, hx], Or.inl rfl⟩

/-- Where an interface comes from: it was there, or it is the one that was added. -/
theorem eq_new_or_exists (hy : (r.perform call).2.interfaces[j]? = some y) :
    y = {} ∨ ∃ x, r.interfaces[j]? = some x ∧ (y = x ∨ ∃ i, i.toNat = j ∧ Changes call i x y) := by
  cases hx : r.interfaces[j]? with
  | some x =>
      obtain ⟨y', hy', hchange⟩ := exists_getElem?_perform call hx
      obtain rfl : y' = y := Option.some.inj (hy'.symm.trans hy)
      exact Or.inr ⟨x, rfl, hchange⟩
  | none =>
      refine Or.inl ?_
      rcases r.perform_cases call with
        ⟨-, hstep⟩ | ⟨a, -, hstep⟩ | ⟨i, x, change, -, -, -, hstep⟩ | ⟨-, e, hstep⟩ <;>
        rw [hstep] at hy
      · rw [Array.getElem?_push, hx] at hy
        split at hy
        · exact (Option.some.inj hy).symm
        · exact absurd hy (by simp)
      · exact absurd (hx.symm.trans hy) (by simp)
      · rw [getElem?_update, hx] at hy
        split at hy
        · exact absurd hy (by simp)
        · exact absurd hy (by simp)
      · exact absurd (hx.symm.trans hy) (by simp)

theorem size_perform (r : Router π) (call : Call π) :
    (r.perform call).2.interfaces.size = r.interfaces.size + if call.adds then 1 else 0 := by
  rcases r.perform_cases call with
    ⟨rfl, hstep⟩ | ⟨a, rfl, hstep⟩ | ⟨i, x, change, htarget, -, -, hstep⟩ | ⟨hadds, e, hstep⟩ <;>
    rw [hstep]
  · simp [Call.adds]
  · simp [Call.adds]
  · simp [Call.adds_eq_false htarget, update]
  · simp [hadds]

/-! ### Any number of calls -/

theorem after_append (r : Router π) (calls later : List (Call π)) :
    r.after (calls ++ later) = (r.after calls).after later :=
  List.foldl_append ..

/-- In every state, what is up has an address of the right kind. -/
theorem sound_after (hx : (empty.after calls : Router π).interfaces[j]? = some x) : x.Sound j := by
  refine foldl_invariant (fun _ (r : Router π) => ∀ x, r.interfaces[j]? = some x → x.Sound j)
    (by simp [empty]) ?_ x hx
  intro done call r _ hr y hy
  rcases eq_new_or_exists hy with rfl | ⟨x, hx, rfl | ⟨i, rfl, hchange⟩⟩
  · exact sound_new
  · exact hr _ hx
  · exact hchange.sound

/-- Whatever is up stays as it is. -/
theorem getElem?_after_of_up (hx : r.interfaces[j]? = some x) (hup : x.up = true)
    (calls : List (Call π)) : (r.after calls).interfaces[j]? = some x := by
  refine foldl_invariant (fun _ (r : Router π) => r.interfaces[j]? = some x) hx ?_
  intro done call r _ hr
  obtain ⟨y, hy, rfl | ⟨i, rfl, hchange⟩⟩ := exists_getElem?_perform call hr
  · exact hy
  · rw [hy, hchange.eq_of_up hup]

theorem size_after (calls : List (Call π)) :
    (empty.after calls : Router π).interfaces.size = calls.countP Call.adds := by
  refine foldl_invariant (fun done (r : Router π) => r.interfaces.size = done.countP Call.adds)
    rfl ?_
  intro done call r _ hr
  rw [size_perform, hr, List.countP_append, List.countP_singleton]

/-- **The interfaces of a router, over any history.**  In every state that a router comes into,
whatever calls were made and refused, each interface that is up has an address of the right kind,
and it keeps this address in all later states.  The interfaces are numbered in the order in which
they were added.  A call that is refused changes nothing, and one that is granted changes nothing
but the interface that it is about. -/
theorem interfaces_of_history (calls : List (Call π)) :
    (∀ (j : ℕ) (x : Interface), (empty.after calls : Router π).interfaces[j]? = some x →
      x.up = true → ∃ a, x.address = some a ∧ (j = 0 → a = ⟨Ipv4.ofOctets 127 0 0 1, 8⟩) ∧
        (j ≠ 0 → a.prefixLen = 24)) ∧
    (∀ (later : List (Call π)) (j : ℕ) (x : Interface),
      (empty.after calls : Router π).interfaces[j]? = some x → x.up = true →
      (empty.after (calls ++ later) : Router π).interfaces[j]? = some x) ∧
    (empty.after calls : Router π).interfaces.size = calls.countP Call.adds ∧
    (calls.countP Call.adds < 2 ^ 32 → ∃ number,
      ((empty.after calls : Router π).perform .addInterface).1 = .added number ∧
        number.toNat = calls.countP Call.adds) ∧
    (∀ call e, ((empty.after calls : Router π).perform call).1 = .refused e →
      ((empty.after calls : Router π).perform call).2 = empty.after calls) ∧
    ∀ call i, call.target? = some i → ((empty.after calls : Router π).perform call).1 = .done →
      ((empty.after calls : Router π).perform call).2.arbiter =
          (empty.after calls : Router π).arbiter ∧
        ∀ j, j ≠ i.toNat → ((empty.after calls : Router π).perform call).2.interfaces[j]? =
          (empty.after calls : Router π).interfaces[j]? := by
  refine ⟨fun j x hx => sound_after hx, ?_, size_after calls, ?_, ?_, ?_⟩
  · intro later j x hx hup
    rw [after_append]
    exact getElem?_after_of_up hx hup later
  · intro hcount
    refine ⟨UInt32.ofNat (calls.countP Call.adds), ?_, UInt32.toNat_ofNat_of_lt' hcount⟩
    rw [← size_after]
    rfl
  · intro call e hrefused
    rcases (empty.after calls).perform_cases call with
      ⟨-, hstep⟩ | ⟨a, -, hstep⟩ | ⟨i, x, change, -, -, -, hstep⟩ | ⟨-, e', hstep⟩ <;>
      rw [hstep] at hrefused ⊢ <;> exact absurd hrefused (by simp)
  · intro call i htarget hdone
    rcases (empty.after calls).perform_cases call with
      ⟨rfl, -⟩ | ⟨a, rfl, -⟩ | ⟨i', x, change, htarget', -, -, hstep⟩ | ⟨-, e, hstep⟩
    · exact absurd htarget (by simp [Call.target?])
    · exact absurd htarget (by simp [Call.target?])
    · obtain rfl : i' = i := Option.some.inj (htarget'.symm.trans htarget)
      rw [hstep]
      refine ⟨rfl, ?_⟩
      intro j hj
      rw [getElem?_update, if_neg (Ne.symm hj)]
    · rw [hstep] at hdone
      exact absurd hdone (by simp)

/-- Interface 1 cannot go up with its first address, so it gets another one.  Once it is up, it
keeps this one, whatever is tried, and a third address is refused. -/
theorem interfaces_of_second_address :
    [Call.addInterface, .addInterface, .addAddress 1 ⟨⟨5⟩, 8⟩, .bringUp 1, .addAddress 1 ⟨⟨6⟩, 24⟩,
      .bringUp 1].countP (Call.adds (π := Unit)) < 2 ^ 32 ∧
    (∃ number, ((empty.after [.addInterface, .addInterface, .addAddress 1 ⟨⟨5⟩, 8⟩, .bringUp 1,
        .addAddress 1 ⟨⟨6⟩, 24⟩, .bringUp 1] : Router Unit).perform .addInterface).1 =
          .added number ∧ number.toNat = 2) ∧
    (empty.after ([.addInterface, .addInterface, .addAddress 1 ⟨⟨5⟩, 8⟩, .bringUp 1,
        .addAddress 1 ⟨⟨6⟩, 24⟩, .bringUp 1] ++
        [.addAddress 1 ⟨⟨7⟩, 24⟩, .takeDown 1, .removeAddress 1, .bringUp 1]) :
      Router Unit).interfaces[1]? = some ⟨some ⟨⟨6⟩, 24⟩, true⟩ ∧
    ((empty.after [.addInterface, .addInterface, .addAddress 1 ⟨⟨5⟩, 8⟩, .bringUp 1,
        .addAddress 1 ⟨⟨6⟩, 24⟩, .bringUp 1] : Router Unit).perform
          (.addAddress 1 ⟨⟨7⟩, 24⟩)).1 = .refused (.addAddressAfterUp 1) ∧
    ((empty.after [.addInterface, .addInterface, .addAddress 1 ⟨⟨5⟩, 8⟩, .bringUp 1,
        .addAddress 1 ⟨⟨6⟩, 24⟩, .bringUp 1] : Router Unit).perform
          (.addAddress 1 ⟨⟨7⟩, 24⟩)).2 =
      empty.after [.addInterface, .addInterface, .addAddress 1 ⟨⟨5⟩, 8⟩, .bringUp 1,
        .addAddress 1 ⟨⟨6⟩, 24⟩, .bringUp 1] := by
  obtain ⟨-, hkept, -, hnumber, hrefused, -⟩ := interfaces_of_history (π := Unit)
    [.addInterface, .addInterface, .addAddress 1 ⟨⟨5⟩, 8⟩, .bringUp 1, .addAddress 1 ⟨⟨6⟩, 24⟩,
      .bringUp 1]
  exact ⟨by decide, hnumber (by decide), hkept _ 1 _ rfl rfl, rfl,
    hrefused (.addAddress 1 ⟨⟨7⟩, 24⟩) _ rfl⟩

end Router

end Multipath
