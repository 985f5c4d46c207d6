import Multipath.Proofs.Arbiter.Decide
import Multipath.Router.Forward

/-!
# What a router answers

Both ways of asking a router come down to the decision of its arbiter (`routeOf`), apart from local
delivery, which needs no arbiter.
-/

namespace Multipath.Router

variable {π : Type} {r : Router π} {a : Arbiter π} {packet : Packet} {header : Ipv4Header}
variable {index : UInt32} {ip : Ipv4} {own : Array InterfaceAddress}

/-! ### Interfaces -/

theorem interface_eq_ok {x : Interface} (h : r.interfaces[index.toNat]? = some x) :
    r.interface index = .ok x := by
  rw [interface, h]

/-- Some interface of the router has the address, whether it is up or not. -/
def HasAddress (r : Router π) (ip : Ipv4) : Prop :=
  ∃ (j : ℕ) (x : Interface) (a : InterfaceAddress),
    r.interfaces[j]? = some x ∧ x.address = some a ∧ a.address = ip

theorem isLocal_iff_hasAddress : r.isLocal ip = true ↔ r.HasAddress ip := by
  rw [isLocal, Array.any_eq_true]
  constructor
  · rintro ⟨j, hj, hany⟩
    cases haddress : r.interfaces[j].address with
    | none => simp [haddress] at hany
    | some a =>
        exact ⟨j, _, a, Array.getElem?_eq_getElem hj, haddress, by simpa [haddress] using hany⟩
  · rintro ⟨j, x, a, hx, haddress, rfl⟩
    obtain ⟨hj, rfl⟩ := Array.getElem?_eq_some_iff.mp hx
    exact ⟨j, hj, by simp [haddress]⟩

/-- The local addresses of a router that is up. -/
theorem isLocal_iff (h : r.interfaces = own.map fun a => ⟨some a, true⟩) :
    r.isLocal ip = true ↔ ∃ a ∈ own, a.address = ip := by
  rw [isLocal, h, ← Array.any_toList, List.any_eq_true]
  simp

/-! ### Routes -/

/-- The route that a decision amounts to, if it amounts to one. -/
def routeOf (r : Router π) (destination : Ipv4) : Decision → Option Route
  | .forward hop => some (r.routeOver destination hop)
  | .noRoute => none

variable [Policy π]

theorem value_lookup (ha : r.arbiter = some a) : (r.lookup packet header none).value =
    match a.decide packet header with
    | .error e => .error (.decision e)
    | .ok decision => .ok (r.routeOf header.destination decision) := by
  rw [lookup, ha]
  simp only [Option.isSome_none, Bool.false_eq_true, if_false, Logged.value_bind,
    Arbiter.value_decideLogged]
  cases a.decide packet header with
  | error e => rfl
  | ok decision =>
      cases decision with
      | forward hop => rfl
      | noRoute => rfl

theorem value_output (ha : r.arbiter = some a) : (r.output packet header none).value =
    match a.decide packet header with
    | .error e => .error (.decision e)
    | .ok (.forward hop) => .ok (.ok (r.routeOver header.destination hop))
    | .ok .noRoute => .ok (.error .noRouteToHost) := by
  rw [output, Logged.value_bind, value_lookup ha]
  cases a.decide packet header with
  | error e => rfl
  | ok decision =>
      cases decision with
      | forward hop => rfl
      | noRoute => rfl

/-- What is for this node is delivered, on whatever interface it came in. -/
theorem value_input_of_local {x : Interface} (hindex : r.interfaces[index.toNat]? = some x)
    (hlocal : r.isLocal header.destination = true) :
    (r.input packet header index).value = .ok (.deliver index) := by
  rw [input, interface_eq_ok hindex]
  simp only [hlocal, if_true]
  rfl

/-- What is for another node is for the arbiter to decide. -/
theorem value_input_of_not_local {x : Interface} (hindex : r.interfaces[index.toNat]? = some x)
    (hlocal : r.isLocal header.destination = false) : (r.input packet header index).value =
    match (r.lookup packet header none).value with
    | .error e => .error e
    | .ok (some route) => .ok (.forward route)
    | .ok none => .ok .drop := by
  rw [input, interface_eq_ok hindex]
  simp only [hlocal, Bool.false_eq_true, if_false, Logged.value_bind]
  cases (r.lookup packet header none).value with
  | error e => rfl
  | ok found =>
      cases found with
      | none => rfl
      | some route => rfl

theorem value_input {x : Interface} (ha : r.arbiter = some a)
    (hindex : r.interfaces[index.toNat]? = some x)
    (hlocal : r.isLocal header.destination = false) : (r.input packet header index).value =
    match a.decide packet header with
    | .error e => .error (.decision e)
    | .ok (.forward hop) => .ok (.forward (r.routeOver header.destination hop))
    | .ok .noRoute => .ok .drop := by
  rw [value_input_of_not_local hindex hlocal, value_lookup ha]
  cases a.decide packet header with
  | error e => rfl
  | ok decision =>
      cases decision with
      | forward hop => rfl
      | noRoute => rfl

/-- What is forwarded is sent where the arbiter decided. -/
theorem exists_decide_of_input {x : Interface} {route : Route} (ha : r.arbiter = some a)
    (hindex : r.interfaces[index.toNat]? = some x)
    (h : (r.input packet header index).value = .ok (.forward route)) : ∃ hop,
      a.decide packet header = .ok (.forward hop) ∧ route = r.routeOver header.destination hop := by
  cases hlocal : r.isLocal header.destination with
  | true =>
      rw [value_input_of_local hindex hlocal] at h
      exact absurd h (by simp)
  | false =>
      rw [value_input ha hindex hlocal] at h
      cases hdecide : a.decide packet header with
      | error e => simp [hdecide] at h
      | ok decision =>
          cases decision with
          | noRoute => simp [hdecide] at h
          | forward hop =>
              rw [hdecide] at h
              exact ⟨hop, rfl, (InputAction.forward.inj (Except.ok.inj h)).symm⟩

/-- What is for this node is delivered on the interface on which it came in, and nothing else is
delivered. -/
theorem value_input_eq_deliver {x : Interface} {i : UInt32}
    (hindex : r.interfaces[index.toNat]? = some x) :
    (r.input packet header index).value = .ok (.deliver i) ↔
      i = index ∧ r.isLocal header.destination = true := by
  cases hlocal : r.isLocal header.destination with
  | true => simp [value_input_of_local hindex hlocal, eq_comm]
  | false =>
      rw [value_input_of_not_local hindex hlocal]
      split <;> simp

theorem value_input_eq_deliver_iff {x : Interface}
    (hindex : r.interfaces[index.toNat]? = some x) :
    (r.input packet header index).value = .ok (.deliver index) ↔
      r.isLocal header.destination = true :=
  (value_input_eq_deliver hindex).trans (and_iff_right rfl)

end Multipath.Router
