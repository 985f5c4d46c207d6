import Multipath.Arbiter.Policy
import Multipath.Flow

/-!
# Equal-cost multi-path

The policy that spreads flows over all shortest paths: the hash of the flow selects one of the
node's candidates for the destination.  A packet with an unreachable destination is a fault.

`Ecmp.table` writes the candidates of a node as text: a line with the node, then one line per
destination with the candidates between braces.
-/

namespace Multipath

/-- The multi-path policy of one node. -/
structure Ecmp where
  /-- The candidates of the node, by destination. -/
  candidates : Array (List NodeId)
  hashSalt : UInt32
  deriving DecidableEq

namespace Ecmp

/-- The candidates for a destination; none outside the network. -/
def candidatesFor (p : Ecmp) (target : NodeId) : List NodeId :=
  p.candidates[target.toNat]?.getD []

/-- The hash that selects among the candidates. -/
def flowHash (p : Ecmp) (header : Ipv4Header) (packet : Packet) (node : NodeId) (bare : Bool) :
    UInt32 :=
  (FlowKey.ofPacket header packet node bare p.hashSalt).hash

/-- The member of a nonempty list that a hash selects. -/
def select (hash : UInt32) (first : NodeId) (others : List NodeId) : NodeId :=
  (first :: others).get ⟨hash.toNat % (first :: others).length, Nat.mod_lt _ (Nat.succ_pos _)⟩

/-- The neighbour to which a packet goes. -/
def choose (p : Ecmp) (q : Query) : Except ArbiterError (Option NodeId) :=
  match p.candidatesFor q.target with
  | [] => .error (.noCandidates q.source q.target q.node)
  | first :: others =>
    .ok (some (select (p.flowHash q.header q.packet q.node q.probe) first others))

/-- The line of one destination. -/
def line (destination : Nat) (candidates : List NodeId) : String :=
  s!"  -> {destination}: \x7b" ++ ",".intercalate (candidates.map toString) ++ "\x7d\n"

/-- The candidates of `node` as text. -/
def table (p : Ecmp) (node : NodeId) : String :=
  String.join (s!"node {node}\n" ::
    p.candidates.toList.zipIdx.map fun (candidates, destination) => line destination candidates)

instance : Policy Ecmp where
  choose := choose
  dump := table

end Ecmp

end Multipath
