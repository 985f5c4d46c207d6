/-!
# Parameters of multi-path forwarding
-/

namespace Multipath

/-- What can be tuned. -/
structure Params where
  /-- The largest network that is handled.  The square of the default still fits into a signed
  32-bit index. -/
  maxNodes : UInt64 := 40000
  /-- Mixed into the hash of every flow. -/
  hashSalt : UInt32 := 0x5bd1e995
  deriving DecidableEq

end Multipath
