import Multipath.Proofs.Router.Forward
import Multipath.Proofs.Router.History

/-!
# Which addresses are local, by the history of a router

What a router takes for its own addresses can be read off the calls that were granted
(`Router.granted`): an interface has the address that was set last, and no address can be set any
more once the interface is up.  `Router.Reflects` says how the state of the interfaces is determined
by these calls; a call that is refused is not among them and leaves the state as it was, and each
call that is granted changes both in the same way (`Reflects.perform`).
-/

namespace Multipath

variable {π : Type}

/-- Whether the answer is no refusal. -/
def Reply.isGrant : Reply → Bool
  | .refused _ => false
  | _ => true

/-- The address that a call is to set at the interface number `j`. -/
def Call.addressFor (j : ℕ) : Call π → Option InterfaceAddress
  | .addAddress i address => if i.toNat = j then some address else none
  | _ => none

/-- The address that was set last at the interface number `j`. -/
def lastAddress (j : ℕ) (calls : List (Call π)) : Option InterfaceAddress :=
  (calls.filterMap (Call.addressFor j)).getLast?

theorem lastAddress_concat (j : ℕ) (calls : List (Call π)) (call : Call π) :
    lastAddress j (calls ++ [call]) = (call.addressFor j).or (lastAddress j calls) := by
  rw [lastAddress, List.filterMap_append, List.getLast?_append]
  cases h : call.addressFor j with
  | none => simp [h, lastAddress]
  | some address => simp [h]

theorem lastAddress_concat_of_none {j : ℕ} {call : Call π} (h : call.addressFor j = none)
    (calls : List (Call π)) : lastAddress j (calls ++ [call]) = lastAddress j calls := by
  rw [lastAddress_concat, h, Option.none_or]

namespace Router

variable {r : Router π} {done : List (Call π)} {call : Call π} {i : UInt32} {j : ℕ}
variable {address : InterfaceAddress} {ip : Ipv4} {e : RoutingError} {x : Interface}
variable {change : Interface → Interface}

/-- The calls of a sequence that are granted, in their order. -/
def granted (r : Router π) : List (Call π) → List (Call π)
  | [] => []
  | call :: calls =>
    if (r.perform call).1.isGrant then call :: (r.perform call).2.granted calls
    else (r.perform call).2.granted calls

/-- The interfaces are as the calls that were granted have left them. -/
structure Reflects (r : Router π) (done : List (Call π)) : Prop where
  size_eq : r.interfaces.size = done.countP Call.adds
  address_eq : ∀ j : ℕ, r.interfaces[j]?.bind Interface.address = lastAddress j done
  up_iff : ∀ j : ℕ, (∃ x, r.interfaces[j]? = some x ∧ x.up = true) ↔
    ∃ i : UInt32, i.toNat = j ∧ Call.bringUp i ∈ done

theorem reflects_empty : (empty : Router π).Reflects [] :=
  ⟨rfl, fun j => by simp [empty, lastAddress], fun j => by simp [empty]⟩

theorem Reflects.addInterface (h : r.Reflects done) :
    Reflects { r with interfaces := r.interfaces.push {} } (done ++ [.addInterface]) where
  size_eq := by simp [h.size_eq, Call.adds]
  address_eq j := by
    rw [lastAddress_concat_of_none rfl, ← h.address_eq, Array.getElem?_push]
    split
    · next hj => simp [hj]
    · rfl
  up_iff j := by
    simp only [List.mem_append, List.mem_singleton, reduceCtorEq, or_false, ← h.up_iff,
      Array.getElem?_push]
    split
    · next hj => simp [hj]
    · rfl

theorem Reflects.setArbiter (h : r.Reflects done) (a : Arbiter π) :
    Reflects { r with arbiter := some a } (done ++ [.setArbiter a]) where
  size_eq := by simp [h.size_eq, Call.adds]
  address_eq j := by rw [lastAddress_concat_of_none rfl, ← h.address_eq]
  up_iff j := by simp [← h.up_iff]

theorem Reflects.addAddress (h : r.Reflects done) (hx : r.interfaces[i.toNat]? = some x)
    (hchange : change x = { x with address := some address }) :
    (r.update i change).Reflects (done ++ [.addAddress i address]) where
  size_eq := by simp [h.size_eq, Call.adds, update]
  address_eq j := by
    rw [lastAddress_concat, Call.addressFor, getElem?_update, ← h.address_eq]
    split
    · next hj => simp [← hj, hx, hchange]
    · rfl
  up_iff j := by
    simp only [List.mem_append, List.mem_singleton, reduceCtorEq, or_false, ← h.up_iff,
      getElem?_update]
    split
    · next hj => simp [← hj, hx, hchange]
    · rfl

theorem Reflects.bringUp (h : r.Reflects done) (hx : r.interfaces[i.toNat]? = some x)
    (hchange : change x = { x with up := true }) :
    (r.update i change).Reflects (done ++ [.bringUp i]) where
  size_eq := by simp [h.size_eq, Call.adds, update]
  address_eq j := by
    rw [lastAddress_concat_of_none rfl, getElem?_update, ← h.address_eq]
    split
    · next hj => simp [← hj, hx, hchange]
    · rfl
  up_iff j := by
    simp only [List.mem_append, List.mem_singleton, Call.bringUp.injEq, and_or_left, exists_or,
      ← h.up_iff, getElem?_update]
    split
    · next hj => simp [← hj, hx, hchange]
    · next hj => simp [hj]

/-- A call that is granted changes the interfaces as it changes what was granted. -/
theorem Reflects.perform (h : r.Reflects done) (call : Call π) :
    (r.perform call).2.Reflects
      (done ++ if (r.perform call).1.isGrant then [call] else []) := by
  rcases r.perform_cases call with
    ⟨rfl, hstep⟩ | ⟨a, rfl, hstep⟩ | ⟨i, x, change, htarget, hx, hchange, hstep⟩ | ⟨-, e, hstep⟩ <;>
    rw [hstep]
  · exact h.addInterface
  · exact h.setArbiter a
  · generalize hy : change x = y at hchange
    cases hchange with
    | address _ address _ _ => exact h.addAddress hx hy
    | up _ _ _ _ _ => exact h.bringUp hx hy
  · simpa [Reply.isGrant] using h

theorem Reflects.after (h : r.Reflects done) (calls : List (Call π)) :
    (r.after calls).Reflects (done ++ r.granted calls) := by
  induction calls generalizing r done with
  | nil =>
      rw [granted, List.append_nil]
      exact h
  | cons call calls ih =>
      have hstep := ih (h.perform call)
      rw [List.append_assoc] at hstep
      have hgranted : r.granted (call :: calls) =
          (if (r.perform call).1.isGrant then [call] else []) ++
            (r.perform call).2.granted calls := by
        rw [granted]
        split <;> rfl
      rw [hgranted]
      exact hstep

/-- Whatever was called, the state reflects the calls that were granted. -/
theorem reflects_granted (calls : List (Call π)) :
    (empty.after calls : Router π).Reflects (empty.granted calls) :=
  reflects_empty.after calls

theorem snd_perform_of_refused (h : (r.perform call).1 = .refused e) : (r.perform call).2 = r := by
  rcases r.perform_cases call with
    ⟨-, hstep⟩ | ⟨a, -, hstep⟩ | ⟨i, x, change, -, -, -, hstep⟩ | ⟨-, e', hstep⟩ <;>
    rw [hstep] at h ⊢ <;> exact absurd h (by simp)

theorem Reflects.isLocal_iff (h : r.Reflects done) :
    r.isLocal ip = true ↔ ∃ j a, lastAddress j done = some a ∧ a.address = ip := by
  rw [isLocal_iff_hasAddress]
  constructor
  · rintro ⟨j, x, a, hx, haddress, hip⟩
    refine ⟨j, a, ?_, hip⟩
    rw [← h.address_eq, hx, Option.bind_some, haddress]
  · rintro ⟨j, a, ha, hip⟩
    rw [← h.address_eq, Option.bind_eq_some_iff] at ha
    obtain ⟨x, hx, haddress⟩ := ha
    exact ⟨j, x, a, hx, haddress, hip⟩

theorem perform_addAddress_eq_done_iff : (r.perform (.addAddress i address)).1 = .done ↔
    ∃ x, r.interfaces[i.toNat]? = some x ∧ x.up = false := by
  rw [perform, run_addAddress]
  cases r.interfaces[i.toNat]? with
  | none => simp [answer]
  | some x => cases hup : x.up <;> simp [answer, hup]

/-- An address can be set at an interface that was added and has not gone up. -/
theorem Reflects.perform_addAddress_iff (h : r.Reflects done) :
    (r.perform (.addAddress i address)).1 = .done ↔
      i.toNat < done.countP Call.adds ∧ Call.bringUp i ∉ done := by
  have hup := h.up_iff i.toNat
  simp only [UInt32.toNat_inj, exists_eq_left] at hup
  rw [perform_addAddress_eq_done_iff, ← h.size_eq, ← hup]
  constructor
  · rintro ⟨x, hx, hdown⟩
    refine ⟨(Array.getElem?_eq_some_iff.mp hx).1, ?_⟩
    rintro ⟨y, hy, hyup⟩
    obtain rfl := Option.some.inj (hx.symm.trans hy)
    exact absurd (hdown.symm.trans hyup) (by decide)
  · rintro ⟨hlt, hdown⟩
    refine ⟨_, Array.getElem?_eq_getElem hlt, Bool.eq_false_iff.mpr ?_⟩
    exact fun hyup => hdown ⟨_, Array.getElem?_eq_getElem hlt, hyup⟩

/-- **Which addresses are local, over any history.**  Whatever was called, an address is local if
and only if some interface has it as the address that was set last, by a call that was granted.  An
address can be set if and only if the interface was added and no call to bring it up was granted so
far.  A call that is refused makes no difference to what is local.  An address that takes the place
of another becomes local, and apart from it there remain the addresses of the other interfaces. -/
theorem local_addresses_of_history (calls : List (Call π)) :
    (∀ ip, (empty.after calls : Router π).isLocal ip = true ↔
      ∃ j a, lastAddress j ((empty : Router π).granted calls) = some a ∧ a.address = ip) ∧
    (∀ i address, ((empty.after calls : Router π).perform (.addAddress i address)).1 = .done ↔
      i.toNat < calls.countP Call.adds ∧ Call.bringUp i ∉ (empty : Router π).granted calls) ∧
    (∀ call e, ((empty.after calls : Router π).perform call).1 = .refused e →
      ∀ ip, (empty.after (calls ++ [call]) : Router π).isLocal ip =
        (empty.after calls : Router π).isLocal ip) ∧
    ∀ i address, ((empty.after calls : Router π).perform (.addAddress i address)).1 = .done →
      ∀ ip, (empty.after (calls ++ [.addAddress i address]) : Router π).isLocal ip = true ↔
        address.address = ip ∨ ∃ j a, j ≠ i.toNat ∧
          lastAddress j ((empty : Router π).granted calls) = some a ∧ a.address = ip := by
  have hreflects := reflects_granted calls
  refine ⟨fun ip => hreflects.isLocal_iff, ?_, ?_, ?_⟩
  · intro i address
    rw [hreflects.perform_addAddress_iff, ← hreflects.size_eq, size_after]
  · intro call e hrefused ip
    have hsame : (empty.after (calls ++ [call]) : Router π) = empty.after calls :=
      (after_append _ _ _).trans (snd_perform_of_refused hrefused)
    rw [hsame]
  · intro i address hdone ip
    have hnext := hreflects.perform (.addAddress i address)
    rw [hdone] at hnext
    have hafter : (empty.after (calls ++ [.addAddress i address]) : Router π) =
      ((empty.after calls : Router π).perform (.addAddress i address)).2 := after_append _ _ _
    rw [hafter, hnext.isLocal_iff]
    simp only [Reply.isGrant, if_true, lastAddress_concat, Call.addressFor]
    constructor
    · rintro ⟨j, a, ha, hip⟩
      split at ha
      · obtain rfl := Option.some.inj ha
        exact Or.inl hip
      · next hj => exact Or.inr ⟨j, a, Ne.symm hj, ha, hip⟩
    · rintro (hip | ⟨j, a, hj, ha, hip⟩)
      · exact ⟨i.toNat, address, by simp, hip⟩
      · exact ⟨j, a, by rwa [if_neg (Ne.symm hj)], hip⟩

/-- At interface 1 one address takes the place of another before it goes up.  An address that comes
too late is refused and does not become local. -/
theorem local_addresses_of_overwritten :
    ((empty.after [.addInterface, .addInterface, .addAddress 1 ⟨⟨5⟩, 24⟩] :
        Router Unit).perform (.addAddress 1 ⟨⟨6⟩, 24⟩)).1 = .done ∧
    (empty.after [.addInterface, .addInterface, .addAddress 1 ⟨⟨5⟩, 24⟩,
        .addAddress 1 ⟨⟨6⟩, 24⟩] : Router Unit).isLocal ⟨6⟩ = true ∧
    ((empty.after [.addInterface, .addInterface, .addAddress 1 ⟨⟨6⟩, 24⟩, .bringUp 1] :
        Router Unit).perform (.addAddress 1 ⟨⟨7⟩, 24⟩)).1 = .refused (.addAddressAfterUp 1) ∧
    (empty.after ([.addInterface, .addInterface, .addAddress 1 ⟨⟨6⟩, 24⟩, .bringUp 1] ++
        [.addAddress 1 ⟨⟨7⟩, 24⟩]) : Router Unit).isLocal ⟨7⟩ = false := by
  obtain ⟨-, -, -, hreplaced⟩ := local_addresses_of_history (π := Unit)
    [.addInterface, .addInterface, .addAddress 1 ⟨⟨5⟩, 24⟩]
  obtain ⟨-, -, hrefused, -⟩ := local_addresses_of_history (π := Unit)
    [.addInterface, .addInterface, .addAddress 1 ⟨⟨6⟩, 24⟩, .bringUp 1]
  refine ⟨rfl, (hreplaced 1 ⟨⟨6⟩, 24⟩ rfl ⟨6⟩).mpr (Or.inl rfl), rfl, ?_⟩
  rw [hrefused (.addAddress 1 ⟨⟨7⟩, 24⟩) _ rfl, isLocal, ← Array.any_toList]
  rfl

end Router

end Multipath
