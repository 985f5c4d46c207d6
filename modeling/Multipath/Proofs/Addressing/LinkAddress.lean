import Mathlib.Algebra.Order.Group.Nat
import Multipath.Addressing.Plan
import Multipath.Packet

/-!
# The addresses of links

The address of a link as a number: the network of the first link, `256` times the number of the link,
and the last byte (`toNat_linkAddress`).  From this follow the facts that routing depends on.

* Up to `2 ^ 24` links have distinct addresses (`linkAddress_inj`).
* Up to `7667712` links have addresses below `127.0.0.0`, so none of them is loop-back or multicast.
* No link has the placeholder of a probe, however many links there are.
-/

namespace Multipath.AddressPlan

variable {i j : Nat} {host host' : UInt32}

/-- The number of links whose addresses lie below those of loop-back. -/
def unicastLinks : Nat := 7667712

theorem toNat_linkAddress (hhost : host.toNat < 2 ^ 8) :
    (linkAddress i host).address.bits.toNat = (167772160 + 256 * i) % 2 ^ 32 + host.toNat := by
  have hbase : baseNetwork.bits.toNat = 167772160 := rfl
  have hnetwork : (baseNetwork.bits + UInt32.ofNat i <<< 8).toNat =
      2 ^ 8 * ((655360 + i) % 2 ^ 24) := by
    rw [UInt32.toNat_add, UInt32.toNat_shiftLeft, hbase, UInt32.toNat_ofNat',
      Nat.shiftLeft_eq]
    simp only [UInt32.reduceToNat, Nat.reduceMod]
    omega
  show ((baseNetwork.bits + UInt32.ofNat i <<< 8) ||| host).toNat = _
  -- the two parts have no bit in common
  rw [UInt32.toNat_or, hnetwork, ← Nat.two_pow_add_eq_or_of_lt hhost]
  omega

theorem linkAddress_inj (hi : i < 2 ^ 24) (hj : j < 2 ^ 24) (hhost : host.toNat < 2 ^ 8)
    (hhost' : host'.toNat < 2 ^ 8)
    (h : (linkAddress i host).address = (linkAddress j host').address) : i = j ∧ host = host' := by
  have hnat := congrArg (fun ip : Ipv4 => ip.bits.toNat) h
  simp only [toNat_linkAddress hhost, toNat_linkAddress hhost'] at hnat
  have hbyte : host.toNat = host'.toNat := by omega
  exact ⟨by omega, UInt32.toNat_inj.mp hbyte⟩

theorem linkAddress_lt (hi : i < unicastLinks) (hhost : host.toNat < 2 ^ 8) :
    (linkAddress i host).address.bits.toNat < 127 * 2 ^ 24 := by
  rw [unicastLinks] at hi
  rw [toNat_linkAddress hhost]
  omega

theorem isLoopback_linkAddress (hi : i < unicastLinks) (hhost : host.toNat < 2 ^ 8) :
    (linkAddress i host).address.isLoopback = false := by
  have hlt := linkAddress_lt hi hhost
  rw [Ipv4.isLoopback, beq_eq_false_iff_ne, Ne, ← UInt32.toNat_inj, UInt32.toNat_shiftRight,
    Nat.shiftRight_eq_div_pow]
  simp only [UInt32.reduceToNat, Nat.reduceMod]
  omega

theorem isMulticast_linkAddress (hi : i < unicastLinks) (hhost : host.toNat < 2 ^ 8) :
    (linkAddress i host).address.isMulticast = false := by
  have hlt := linkAddress_lt hi hhost
  rw [Ipv4.isMulticast, beq_eq_false_iff_ne, Ne, ← UInt32.toNat_inj, UInt32.toNat_shiftRight,
    Nat.shiftRight_eq_div_pow]
  simp only [UInt32.reduceToNat, Nat.reduceMod]
  omega

theorem linkAddress_ne_probeSource (hhost : host.toNat < 102) :
    (linkAddress i host).address ≠ Ipv4Header.probeSource := by
  intro h
  have hnat := congrArg (fun ip : Ipv4 => ip.bits.toNat) h
  have hprobe : Ipv4Header.probeSource.bits.toNat = 1717986918 := rfl
  simp only [toNat_linkAddress (Nat.lt_trans hhost (by decide)), hprobe] at hnat
  omega

theorem linkAddress_ne_loopback (hi : i < unicastLinks) (hhost : host.toNat < 2 ^ 8) :
    (linkAddress i host).address ≠ Ipv4.loopback := by
  intro h
  have hlt := linkAddress_lt hi hhost
  rw [h] at hlt
  exact absurd hlt (by decide)

end Multipath.AddressPlan
