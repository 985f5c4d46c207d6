import Multipath.Octets
import Std.Data.ExtTreeMap

/-!
# IPv4 addresses

An address is a 32-bit number.  Its text is the four bytes in decimal, most significant first,
separated by dots.

* `Ipv4.text` prints an address, `Ipv4.ofText?` reads one.  Reading accepts exactly the printed
  form: four fields, each the decimal text of a byte, hence no sign, blank or leading zero.
* `isLoopback` and `isMulticast` are the two ranges that are never routed.
-/

namespace Multipath

/-- An IPv4 address; `bits` holds the first field of the dotted text in its top byte. -/
structure Ipv4 where
  bits : UInt32
  deriving DecidableEq, Hashable, Inhabited

namespace Ipv4

/-- Addresses are ordered as numbers. -/
instance : Ord Ipv4 := ⟨fun a b => compare a.bits b.bits⟩

theorem compare_eq (a b : Ipv4) : compare a b = compare a.bits b.bits := rfl

instance : Std.TransOrd Ipv4 where
  eq_swap := by
    intro a b
    simp only [compare_eq]
    exact Std.OrientedCmp.eq_swap
  isLE_trans := by
    intro a b c
    simp only [compare_eq]
    exact Std.TransCmp.isLE_trans

instance : Std.LawfulEqOrd Ipv4 where
  compare_self := by
    intro a
    simp only [compare_eq]
    exact Std.ReflCmp.compare_self
  eq_of_compare := by
    intro a b h
    simp only [compare_eq] at h
    cases a
    cases b
    simpa using Std.LawfulEqCmp.eq_of_compare h

/-- The address `a.b.c.d`. -/
def ofOctets (a b c d : UInt8) : Ipv4 :=
  ⟨ofBigEndian32 a b c d⟩

/-- The four bytes of an address, in the order of its text. -/
def octets (ip : Ipv4) : List UInt8 :=
  bigEndian32 ip.bits

/-- The address `0.0.0.0`, which stands for "none". -/
def unspecified : Ipv4 := ofOctets 0 0 0 0

/-- The address `127.0.0.1` of the loop-back interface. -/
def loopback : Ipv4 := ofOctets 127 0 0 1

/-- Membership in `127.0.0.0/8`. -/
def isLoopback (ip : Ipv4) : Bool :=
  ip.bits >>> 24 == 127

/-- Membership in `224.0.0.0/4`. -/
def isMulticast (ip : Ipv4) : Bool :=
  ip.bits >>> 28 == 14

/-! ### Dotted text -/

/-- The dotted decimal text of an address. -/
def text (ip : Ipv4) : String :=
  ".".intercalate (ip.octets.map fun o => toString o.toNat)

/-- Splits a text at its dots; a text without dots is one field. -/
def fields : List Char → List (List Char)
  | [] => [[]]
  | c :: rest =>
    if c = '.' then [] :: fields rest
    else
      match fields rest with
      | first :: others => (c :: first) :: others
      | [] => [[c]]

/-- The byte with the given decimal text, if there is one. -/
def octet? (digits : List Char) : Option UInt8 :=
  ((List.range 256).find? fun n => (toString n).toList == digits).map UInt8.ofNat

/-- The address with the given dotted decimal text, if there is one. -/
def ofText? (s : String) : Option Ipv4 :=
  match fields s.toList with
  | [a, b, c, d] => do
    return ofOctets (← octet? a) (← octet? b) (← octet? c) (← octet? d)
  | _ => none

instance : ToString Ipv4 := ⟨text⟩

end Ipv4

end Multipath
