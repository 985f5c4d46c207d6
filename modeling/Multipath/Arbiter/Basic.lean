import Multipath.Addressing.Plan
import Multipath.Arbiter.InterfaceMap
import Multipath.Arbiter.Policy
import Multipath.Log

/-!
# Forwarding decisions

An `Arbiter` decides for one node where packets go next.  It asks its policy for a neighbour and
turns the answer into an interface.

* `Arbiter.question` prepares a packet for the policy.  Loop-back destinations need no policy,
  multicast destinations are refused, and both addresses must belong to nodes; a probe counts as
  coming from the deciding node.
* `Arbiter.answer` asks the policy and checks what it says: its choice must be a node, and a
  neighbour.
* `Arbiter.decide` is one after the other, and `Arbiter.decideLogged` also reports a fault.
-/

namespace Multipath

/-- The decision maker of one node. -/
structure Arbiter (π : Type) where
  node : NodeId
  topology : Topology
  resolver : Resolver
  links : InterfaceMap
  policy : π

namespace Arbiter

variable {π : Type}

/-- The arbiter of a node; `indices` are the interface numbers at both ends of each edge. -/
def create (node : NodeId) (t : Topology) (resolver : Resolver)
    (indices : Array (UInt32 × UInt32)) (policy : π) :
    Except (Failure TopologyError) (Arbiter π) := do
  let links ← InterfaceMap.ofEdges t node indices
  return ⟨node, t, resolver, links, policy⟩

/-- The arbiter of a node whose addresses and interfaces are those of a plan. -/
def ofPlan (node : NodeId) (t : Topology) (plan : AddressPlan) (policy : π) :
    Except (Failure TopologyError) (Arbiter π) :=
  create node t plan.resolver plan.indices policy

/-- The link to a neighbour. -/
def linkTo (a : Arbiter π) (neighbor : NodeId) : Option LinkIndex :=
  a.links.linkTo neighbor

/-- The hop to the node that the policy selected. -/
def hopTo (a : Arbiter π) (selected : NodeId) : Except ArbiterError NextHop :=
  if a.topology.size ≤ selected.toNat then
    .error (.nodeOutOfRange selected a.topology.numNodes)
  else
    match a.linkTo selected with
    | some link => .ok (.link link)
    | none => .error (.notANeighbor selected a.node)

/-! ### Preparing the question -/

/-- The question to the policy about a packet between two nodes. -/
def questionBetween (a : Arbiter π) (source target : NodeId) (packet : Packet)
    (header : Ipv4Header) (probe : Bool) : Except (Failure ArbiterError) Query := do
  let neighbors ← a.topology.neighbors a.node
  return {
    node := a.node
    source := source
    target := target
    neighbors := neighbors
    packet := packet
    header := header
    probe := probe }

/-- The node from which a packet comes. -/
def sourceOf (a : Arbiter π) (header : Ipv4Header) : Except ArbiterError NodeId :=
  if header.isProbe then .ok a.node else a.resolver.resolve header.source

/-- The question to the policy about a packet, or `none` if the packet stays on its node. -/
def question (a : Arbiter π) (packet : Packet) (header : Ipv4Header) :
    Except (Failure ArbiterError) (Option Query) :=
  if header.destination.isLoopback then .ok none
  else if header.destination.isMulticast then
    .error (.error (.multicast header.destination))
  else do
    let source ← Failure.lift (a.sourceOf header)
    let target ← Failure.lift (a.resolver.resolve header.destination)
    let query ← a.questionBetween source target packet header header.isProbe
    return some query

/-! ### Deciding -/

variable [Policy π]

/-- What becomes of a packet once the policy is asked. -/
def answer (a : Arbiter π) (q : Query) : Except ArbiterError Decision := do
  match ← Policy.choose a.policy q with
  | none => return .noRoute
  | some selected => return .forward (← a.hopTo selected)

/-- The decision about a packet between two nodes. -/
def decideBetween (a : Arbiter π) (source target : NodeId) (packet : Packet)
    (header : Ipv4Header) (probe : Bool) : Except (Failure ArbiterError) Decision := do
  let query ← a.questionBetween source target packet header probe
  Failure.lift (a.answer query)

/-- The decision about a packet. -/
def decide (a : Arbiter π) (packet : Packet) (header : Ipv4Header) :
    Except (Failure ArbiterError) Decision := do
  match ← a.question packet header with
  | none => return .forward .loopback
  | some query => Failure.lift (a.answer query)

/-- The decision about a packet; a fault leaves a record. -/
def decideLogged (a : Arbiter π) (packet : Packet) (header : Ipv4Header) :
    Logged (Except (Failure ArbiterError) Decision) := do
  let outcome := a.decide packet header
  if let .error (.error fault) := outcome then
    Logged.emit (.decisionFailed a.node packet.uid fault)
  return outcome

/-- The policy's state as text. -/
def dump (a : Arbiter π) : String :=
  Policy.dump a.policy a.node

end Arbiter

end Multipath
