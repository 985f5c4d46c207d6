import Multipath.Arbiter.Basic
import Multipath.Arbiter.Ecmp
import Multipath.Candidates

/-!
# Installing multi-path forwarding

`installEcmp` computes the candidates of a whole topology once and gives every node an arbiter
with its row of them, in increasing order of the nodes.  A record announces each node before its
arbiter is built; the first fault ends the installation.
-/

namespace Multipath

/-- The arbiters of the nodes from `node` on, whose candidates are `rows`. -/
def installRows (t : Topology) (plan : AddressPlan) (resolver : Resolver) (hashSalt : UInt32)
    (node : Nat) :
    List (Array (List NodeId)) → Logged (Except (Failure TopologyError) (List (Arbiter Ecmp)))
  | [] => pure (.ok [])
  | row :: rows => do
    Logged.emit (.installing (UInt32.ofNat node))
    match Arbiter.create (UInt32.ofNat node) t resolver plan.indices (Ecmp.mk row hashSalt) with
    | .error e => return .error e
    | .ok arbiter =>
      let others ← installRows t plan resolver hashSalt (node + 1) rows
      return others.map (arbiter :: ·)

/-- The multi-path arbiters of all nodes. -/
def installEcmp (t : Topology) (plan : AddressPlan) (params : Params) :
    Logged (Except (Failure TopologyError) (List (Arbiter Ecmp))) := do
  match ← CandidateTable.compute t params with
  | .error e => return .error e
  | .ok table => installRows t plan plan.resolver params.hashSalt 0 table.rows.toList

end Multipath
