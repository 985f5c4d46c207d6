/-!
# Hop distances

A distance is a number of hops in 32 bits.  The largest word stands for "no path"; sums of finite
distances stop one below it, so that a sum of reachable legs is never taken for unreachable.
-/

namespace Multipath

/-- A number of hops, or `Distance.unreachable`. -/
abbrev Distance := UInt32

namespace Distance

/-- The distance between nodes without a path. -/
def unreachable : Distance := 0xFFFFFFFF

/-- The length of two legs together: unreachable if one of them is, otherwise their sum, cut off
below `unreachable`. -/
def add (a b : Distance) : Distance :=
  if a = unreachable ∨ b = unreachable then unreachable
  else UInt32.ofNat (min (unreachable.toNat - 1) (a.toNat + b.toNat))

/-- Whether `closer` is exactly one hop nearer than `farther`, which must be a finite distance. -/
def isOneCloser (closer farther : Distance) : Bool :=
  farther != unreachable && farther != 0 && farther - 1 == closer

@[simp] theorem add_unreachable (a : Distance) : add a unreachable = unreachable := by
  simp [add]

@[simp] theorem unreachable_add (a : Distance) : add unreachable a = unreachable := by
  simp [add]

@[simp] theorem isOneCloser_unreachable (a : Distance) : isOneCloser a unreachable = false := by
  simp [isOneCloser]

@[simp] theorem isOneCloser_zero (a : Distance) : isOneCloser a 0 = false := by
  simp [isOneCloser]

end Distance

end Multipath
