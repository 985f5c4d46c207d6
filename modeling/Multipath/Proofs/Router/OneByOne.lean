import Multipath.Proofs.Router.History
import Multipath.Proofs.Router.Setup

/-!
# Interfaces one by one

`Router.ofAddresses` sets all addresses before the first interface goes up.  The same router comes
about if each interface goes up before the next one is added (`Router.oneByOne`).  In between the
two ways differ: when `k` interfaces are up, one has all the addresses, the other only `k` of them.
But the next interface goes up under the same check, and with the same refusal, so the two ways stay
side by side (`foldlM_addUp_started`).

What is refused can then be read off one by one.  It is the first address that is not admitted at
its place (`oneByOne_eq_error_iff`).
-/

namespace Multipath.Router

open Interface

variable {π : Type} {addresses done rest : List InterfaceAddress} {address first : InterfaceAddress}
variable {r : Router π} {e : RoutingError} {i : UInt32}

/-- Adds an interface, gives it its address and brings it up. -/
def addUp (address : InterfaceAddress) : Operation π Unit := do
  let i ← modifyGet addInterface
  addAddress i address
  bringUp i

/-- The router with the given addresses, where each interface goes up before the next is added. -/
def oneByOne (addresses : List InterfaceAddress) : Except RoutingError (Router π) :=
  outcome (addresses.forM addUp) empty

theorem oneByOne_eq_foldlM : (oneByOne addresses : Except _ (Router π)) =
    addresses.foldlM (fun r a => outcome (addUp a) r) (started [] 0) :=
  outcome_forM addUp addresses empty

/-! ### Side by side -/

/-- The next interface is added and goes up, if its address passes the check. -/
theorem addUp_started (h : done.length < 2 ^ 32) :
    outcome (addUp address) (started done done.length : Router π) =
      checkAddress (UInt32.ofNat done.length) address >>= fun _ =>
        .ok (started (done ++ [address]) (done ++ [address]).length) := by
  have hadd : outcome (addUp address) (started done done.length : Router π) =
      outcome (addWithAddress address) (started done done.length) >>=
        outcome (bringUp (UInt32.ofNat (started done done.length : Router π).interfaces.size)) :=
    outcome_bind _ _ _
  have hlast : (done ++ [address])[done.length]? = some address := by simp
  rw [hadd, addWithAddress_started h le_rfl, size_started, List.length_append,
    List.length_singleton]
  exact bringUp_started h hlast

/-- From the same number of interfaces on, both ways end in the same way. -/
theorem foldlM_addUp_started (done rest : List InterfaceAddress)
    (h : done.length + rest.length < 2 ^ 32) :
    rest.foldlM (fun r a => outcome (addUp a) r) (started done done.length : Router π) =
      (List.range' done.length rest.length).foldlM
        (fun r i => outcome (bringUp (UInt32.ofNat i)) r) (started (done ++ rest) done.length) := by
  induction rest generalizing done with
  | nil =>
      rw [List.append_nil]
      rfl
  | cons address rest ih =>
      rw [List.length_cons] at h
      have hlt : done.length < 2 ^ 32 := by omega
      have hnext : (done ++ address :: rest)[done.length]? = some address := by simp
      have hlength : (done ++ [address]).length = done.length + 1 := by simp
      have hrest := ih (done ++ [address]) (by omega)
      rw [List.append_assoc, List.singleton_append, hlength] at hrest
      rw [List.foldlM_cons, addUp_started hlt, List.length_cons, List.range'_succ,
        List.foldlM_cons, bringUp_started hlt hnext, hlength]
      -- both ways go by the same check, whatever addresses are behind this one
      cases checkAddress (UInt32.ofNat done.length) address with
      | error e => rfl
      | ok _ => exact hrest

theorem ofAddresses_eq_oneByOne (h : addresses.length < 2 ^ 32) :
    (ofAddresses addresses : Except _ (Router π)) = oneByOne addresses := by
  have hside := foldlM_addUp_started (π := π) [] addresses (by simpa using h)
  rw [ofAddresses_eq_foldlM h, oneByOne_eq_foldlM, List.range_eq_range']
  exact hside.symm

/-! ### What is admitted -/

/-- Each address is admitted at its place. -/
def Admitted (addresses : List InterfaceAddress) : Prop :=
  ∀ (k : ℕ) (a : InterfaceAddress), addresses[k]? = some a → Admits k a

theorem admitted_cons : Admitted (first :: rest) ↔
    first = ⟨Ipv4.ofOctets 127 0 0 1, 8⟩ ∧ ∀ a ∈ rest, a.prefixLen = 24 := by
  constructor
  · intro h
    refine ⟨(h 0 first rfl).1 rfl, ?_⟩
    intro a ha
    obtain ⟨k, hk⟩ := List.getElem?_of_mem ha
    exact (h (k + 1) a hk).2 (Nat.succ_ne_zero k)
  · rintro ⟨hfirst, hrest⟩ (_ | k) a ha
    · obtain rfl := Option.some.inj ha
      exact ⟨fun _ => hfirst, fun hzero => absurd rfl hzero⟩
    · exact ⟨fun hzero => absurd hzero (Nat.succ_ne_zero k),
        fun _ => hrest a (List.mem_of_getElem? ha)⟩

theorem Admitted.concat (h : Admitted done) (hlast : Admits done.length address) :
    Admitted (done ++ [address]) := by
  intro k a ha
  rw [List.getElem?_append] at ha
  split at ha
  · exact h k a ha
  · next hk =>
      rw [List.getElem?_singleton] at ha
      split at ha
      · next hlength =>
          obtain rfl : k = done.length := by omega
          exact Option.some.inj ha ▸ hlast
      · exact absurd ha (by simp)

theorem checkAddress_ofNat_eq_ok_iff {k : ℕ} (h : k < 2 ^ 32) :
    checkAddress (UInt32.ofNat k) address = .ok () ↔ Admits k address := by
  rw [checkAddress_eq_ok_iff, UInt32.toNat_ofNat_of_lt' h]

/-! ### The outcome -/

theorem oneByOne_eq_ok_iff (h : addresses.length < 2 ^ 32) : oneByOne addresses = .ok r ↔
    Admitted addresses ∧ r = started addresses addresses.length := by
  constructor
  · intro hok
    rw [oneByOne_eq_foldlM] at hok
    refine foldlM_invariant (fun done r => Admitted done ∧ r = started done done.length) hok
      ⟨by simp [Admitted], rfl⟩ ?_
    rintro done address r r' hpre ⟨hdone, rfl⟩ hstep
    have hlt : done.length < 2 ^ 32 := (length_lt_of_prefix_concat hpre).trans h
    rw [addUp_started hlt, bind_eq_ok] at hstep
    obtain ⟨⟨⟩, hcheck, hr'⟩ := hstep
    exact ⟨hdone.concat ((checkAddress_ofNat_eq_ok_iff hlt).mp hcheck),
      (Except.ok.inj hr').symm⟩
  · rintro ⟨hadmitted, rfl⟩
    rw [oneByOne_eq_foldlM]
    refine foldlM_eq_ok (fun done => started done done.length) ?_
    intro done address hpre
    have hlt : done.length < 2 ^ 32 := (length_lt_of_prefix_concat hpre).trans h
    have hadmits := hadmitted _ _ (getElem?_of_prefix_concat hpre)
    rw [addUp_started hlt, (checkAddress_ofNat_eq_ok_iff hlt).mpr hadmits]
    rfl

theorem oneByOne_eq_error_iff (h : addresses.length < 2 ^ 32) :
    (oneByOne addresses : Except _ (Router π)) = .error e ↔
      ∃ done address rest, addresses = done ++ address :: rest ∧ Admitted done ∧
        checkAddress (UInt32.ofNat done.length) address = .error e := by
  rw [oneByOne_eq_foldlM, foldlM_eq_error_iff]
  simp only [← oneByOne_eq_foldlM]
  refine exists_congr fun done => exists_congr fun address => exists_congr fun rest => ?_
  rw [exists_and_left]
  refine and_congr_right fun hsplit => ?_
  have hlt : done.length < 2 ^ 32 := by
    rw [hsplit, List.length_append, List.length_cons] at h
    omega
  constructor
  · rintro ⟨r, hdone, hstep⟩
    obtain ⟨hadmitted, rfl⟩ := (oneByOne_eq_ok_iff hlt).mp hdone
    rw [addUp_started hlt, bind_eq_error] at hstep
    rcases hstep with hcheck | ⟨_, -, hstep⟩
    · exact ⟨hadmitted, hcheck⟩
    · exact absurd hstep (by simp)
  · rintro ⟨hadmitted, hcheck⟩
    refine ⟨_, (oneByOne_eq_ok_iff hlt).mpr ⟨hadmitted, rfl⟩, ?_⟩
    rw [addUp_started hlt, hcheck]
    rfl

/-! ### What is refused -/

theorem checkAddress_zero_eq_error_iff : checkAddress 0 address = .error e ↔
    address ≠ ⟨Ipv4.ofOctets 127 0 0 1, 8⟩ ∧ e = .badLoopback := by
  have hloopback : InterfaceAddress.loopback = ⟨Ipv4.ofOctets 127 0 0 1, 8⟩ := rfl
  rw [checkAddress, if_pos rfl, hloopback]
  split_ifs with haddress
  · simp [haddress]
  · simp [haddress, eq_comm]

theorem ne_zero_of_toNat {k : ℕ} (h : i.toNat = k + 1) : i ≠ 0 := by
  rintro rfl
  exact absurd h (Nat.succ_ne_zero k).symm

theorem checkAddress_eq_error_iff (h : i ≠ 0) : checkAddress i address = .error e ↔
    address.prefixLen ≠ 24 ∧ e = .badSubnetMask i := by
  have hprefix : InterfaceAddress.linkPrefixLen = 24 := rfl
  rw [checkAddress, if_neg h, hprefix]
  split_ifs with haddress
  · simp [haddress]
  · simp [haddress, eq_comm]

/-- What is said against a list of addresses: the first of them is not that of loop-back, or else
the first of the others whose prefix is not of 24 bits is that of interface `i`. -/
inductive Refusal : List InterfaceAddress → RoutingError → Prop
  | badLoopback (first : InterfaceAddress) (rest : List InterfaceAddress) :
      first ≠ ⟨Ipv4.ofOctets 127 0 0 1, 8⟩ → Refusal (first :: rest) .badLoopback
  | badSubnetMask (right : List InterfaceAddress) (wrong : InterfaceAddress)
      (rest : List InterfaceAddress) (i : UInt32) : (∀ a ∈ right, a.prefixLen = 24) →
      wrong.prefixLen ≠ 24 → i.toNat = right.length + 1 →
      Refusal (⟨Ipv4.ofOctets 127 0 0 1, 8⟩ :: (right ++ wrong :: rest)) (.badSubnetMask i)

theorem oneByOne_eq_error_iff_refusal (h : addresses.length < 2 ^ 32) :
    (oneByOne addresses : Except _ (Router π)) = .error e ↔ Refusal addresses e := by
  rw [oneByOne_eq_error_iff h]
  constructor
  · rintro ⟨_ | ⟨first, right⟩, wrong, rest, rfl, hadmitted, hcheck⟩
    · obtain ⟨hwrong, rfl⟩ := checkAddress_zero_eq_error_iff.mp hcheck
      exact .badLoopback wrong rest hwrong
    · obtain ⟨rfl, hright⟩ := admitted_cons.mp hadmitted
      have hindex : (UInt32.ofNat (right.length + 1)).toNat = right.length + 1 :=
        UInt32.toNat_ofNat_of_lt' (lt_of_le_of_lt (by simp) h)
      obtain ⟨hwrong, rfl⟩ := (checkAddress_eq_error_iff (ne_zero_of_toNat hindex)).mp hcheck
      exact .badSubnetMask right wrong rest _ hright hwrong hindex
  · intro hrefusal
    cases hrefusal with
    | badLoopback first rest hfirst =>
        exact ⟨[], first, rest, rfl, by simp [Admitted],
          checkAddress_zero_eq_error_iff.mpr ⟨hfirst, rfl⟩⟩
    | badSubnetMask right wrong rest i hright hwrong hi =>
        refine ⟨_ :: right, wrong, rest, rfl, admitted_cons.mpr ⟨rfl, hright⟩, ?_⟩
        rw [List.length_cons, ← hi, UInt32.ofNat_toNat]
        exact (checkAddress_eq_error_iff (ne_zero_of_toNat hi)).mpr ⟨hwrong, rfl⟩

/-- **A router that is set up at once is one that was set up step by step.**  Both ways give the
same router, or the same refusal.  They succeed if and only if there are no addresses, or the first
is that of loop-back and all others have a prefix of 24 bits.  Otherwise the refusal is about
loop-back if the first address is another one, and else about the first interface whose prefix is
another one.  The interfaces of the router are up and have the addresses in their order. -/
theorem set_up_one_by_one (h : addresses.length < 2 ^ 32) :
    (ofAddresses addresses : Except _ (Router π)) = oneByOne addresses ∧
    ((∃ r : Router π, ofAddresses addresses = .ok r) ↔ addresses = [] ∨
      ∃ rest, addresses = ⟨Ipv4.ofOctets 127 0 0 1, 8⟩ :: rest ∧ ∀ a ∈ rest, a.prefixLen = 24) ∧
    (∀ e, (ofAddresses addresses : Except _ (Router π)) = .error e ↔ Refusal addresses e) ∧
    ∀ r : Router π, ofAddresses addresses = .ok r →
      r.interfaces = (addresses.map fun a => ⟨some a, true⟩).toArray := by
  rw [ofAddresses_eq_oneByOne h]
  refine ⟨rfl, ?_, fun e => oneByOne_eq_error_iff_refusal h, ?_⟩
  · simp only [oneByOne_eq_ok_iff h, exists_and_left, exists_eq, and_true]
    cases addresses with
    | nil => simp [Admitted]
    | cons first rest => simp [admitted_cons]
  · intro r hr
    obtain ⟨-, rfl⟩ := (oneByOne_eq_ok_iff h).mp hr
    rw [started_length]

/-- Interface 2 has the wrong prefix, and so has interface 3.  Without the two the router is set
up. -/
theorem set_up_one_by_one_of_four :
    [(⟨Ipv4.ofOctets 127 0 0 1, 8⟩ : InterfaceAddress), ⟨⟨5⟩, 24⟩, ⟨⟨6⟩, 16⟩, ⟨⟨7⟩, 8⟩].length <
      2 ^ 32 ∧
    (oneByOne [⟨Ipv4.ofOctets 127 0 0 1, 8⟩, ⟨⟨5⟩, 24⟩, ⟨⟨6⟩, 16⟩, ⟨⟨7⟩, 8⟩] :
      Except _ (Router Unit)) = .error (.badSubnetMask 2) ∧
    ∃ r : Router Unit, oneByOne [⟨Ipv4.ofOctets 127 0 0 1, 8⟩, ⟨⟨5⟩, 24⟩] = .ok r ∧
      r.interfaces = #[⟨some ⟨Ipv4.ofOctets 127 0 0 1, 8⟩, true⟩, ⟨some ⟨⟨5⟩, 24⟩, true⟩] := by
  obtain ⟨hsame, -, hrefused, -⟩ := set_up_one_by_one (π := Unit)
    (by decide : [(⟨Ipv4.ofOctets 127 0 0 1, 8⟩ : InterfaceAddress), ⟨⟨5⟩, 24⟩, ⟨⟨6⟩, 16⟩,
      ⟨⟨7⟩, 8⟩].length < 2 ^ 32)
  obtain ⟨hsame', hsuccess, -, hinterfaces⟩ := set_up_one_by_one (π := Unit)
    (by decide : [(⟨Ipv4.ofOctets 127 0 0 1, 8⟩ : InterfaceAddress), ⟨⟨5⟩, 24⟩].length < 2 ^ 32)
  refine ⟨by decide, ?_, ?_⟩
  · rw [← hsame, hrefused]
    exact .badSubnetMask [⟨⟨5⟩, 24⟩] ⟨⟨6⟩, 16⟩ [⟨⟨7⟩, 8⟩] 2 (by simp) (by decide) rfl
  · obtain ⟨r, hr⟩ := hsuccess.mpr (Or.inr ⟨[⟨⟨5⟩, 24⟩], rfl, by simp⟩)
    exact ⟨r, hsame' ▸ hr, hinterfaces r hr⟩

end Multipath.Router
