import Multipath.Ipv4

/-!
# Next hops

The outcome of a forwarding decision: an interface on which the packet leaves, or no route.
Interface 0 is loop-back, so the number of a link is never zero.
-/

namespace Multipath

/-- The number of a link's interface. -/
structure LinkIndex where
  val : UInt32
  ne_zero : val ≠ 0
  deriving DecidableEq

/-- The link with the given number, unless that is the number of loop-back. -/
def LinkIndex.ofNumber? (number : UInt32) : Option LinkIndex :=
  if h : number ≠ 0 then some ⟨number, h⟩ else none

@[simp] theorem LinkIndex.ofNumber?_zero : LinkIndex.ofNumber? 0 = none := by
  simp [LinkIndex.ofNumber?]

@[simp] theorem LinkIndex.ofNumber?_val (i : LinkIndex) : LinkIndex.ofNumber? i.val = some i := by
  simp [LinkIndex.ofNumber?, i.ne_zero]

/-- Where a packet leaves its node. -/
inductive Egress where
  | loopback
  | link (index : LinkIndex)
  deriving DecidableEq

/-- The number of the interface. -/
def Egress.index : Egress → UInt32
  | loopback => 0
  | link i => i.val

/-- An interface and the gateway behind it. -/
structure NextHop where
  egress : Egress
  /-- Unspecified on a point-to-point link, where there is only one possible receiver. -/
  gateway : Ipv4
  deriving DecidableEq

namespace NextHop

/-- The hop of a packet that stays on its node. -/
def loopback : NextHop := ⟨.loopback, Ipv4.unspecified⟩

/-- The hop over a link. -/
def link (index : LinkIndex) : NextHop := ⟨.link index, Ipv4.unspecified⟩

/-- The number of the interface. -/
def index (h : NextHop) : UInt32 :=
  h.egress.index

end NextHop

/-- The outcome of a decision. -/
inductive Decision where
  | forward (hop : NextHop)
  | noRoute
  deriving DecidableEq

end Multipath
