import Multipath.Arbiter.Install
import Multipath.Router.Forward
import Std.Data.HashMap

/-!
# Networks

A `Network` is a topology in operation: every node has a router with a multi-path arbiter, and the
interfaces are wired as the address plan says.

`Network.send` lets one host send a TCP packet to another.  The sender first asks its router with
a probe which source address the packet gets, then hands the packet over; from there it is walked
along the wiring from router to router until one of them delivers it.  The walk is cut off when it
has seen more nodes than there are.
-/

namespace Multipath

/-- One side of a link: a node and the number of its interface. -/
structure LinkEnd where
  node : NodeId
  index : UInt32
  deriving DecidableEq, Hashable

/-- A topology in operation. -/
structure Network where
  topology : Topology
  plan : AddressPlan
  routers : Array (Router Ecmp)
  /-- From each side of a link to the other. -/
  wiring : Std.HashMap LinkEnd LinkEnd
  /-- The number of packets sent so far, which is also the identifier of the last one. -/
  sent : UInt64

/-- Why a network could not be set up. -/
inductive NetworkError where
  | topology (e : Failure TopologyError)
  | routing (e : RoutingError)
  deriving DecidableEq

/-- A packet to be sent. -/
structure Shipment where
  source : NodeId
  destination : NodeId
  sourcePort : UInt16
  destinationPort : UInt16
  payloadSize : UInt32
  deriving DecidableEq

/-- Why a packet did not reach its destination. -/
inductive SendFailure where
  /-- Flows cannot begin or end at the node. -/
  | invalidEndpoint (node : NodeId)
  /-- A router could not decide. -/
  | decision (e : Failure ArbiterError)
  /-- A router was used in a wrong way. -/
  | routing (e : RoutingError)
  /-- The sender has no route. -/
  | noRoute (source destination : NodeId)
  /-- The packet left on an interface that leads nowhere. -/
  | unwired (exit : LinkEnd)
  /-- The packet visited more nodes than there are. -/
  | forwardingLoop (path : List NodeId)
  /-- A router dropped the packet. -/
  | dropped (node : NodeId) (path : List NodeId)
  deriving DecidableEq

/-- A path as text. -/
def pathText (path : List NodeId) : String :=
  "[" ++ ", ".intercalate (path.map toString) ++ "]"

/-- The text that reports a failed transmission. -/
def SendFailure.message : SendFailure → String
  | invalidEndpoint node => s!"{node} is not a valid endpoint"
  | decision e => e.message ArbiterError.message
  | routing e => e.unhandled
  | noRoute source destination => s!"No route from {source} to {destination}: NoRouteToHost"
  | unwired _ => "no entry found for key"
  | forwardingLoop path => "Forwarding loop: " ++ pathText path
  | dropped node path => s!"Packet dropped at {node}, path so far " ++ pathText path

/-- A transmission, which may fail. -/
abbrev Sending := ExceptT SendFailure Logged

namespace Sending

/-- Reads a table. -/
def ofRead {α : Type} (x : Except (Failure ArbiterError) α) : Sending α :=
  ExceptT.mk (pure (x.mapError .decision))

/-- What a router says. -/
def ofRouter {α : Type} (x : Logged (Except RouterFailure α)) : Sending α :=
  ExceptT.mk do
    match ← x with
    | .ok a => return .ok a
    | .error (.routing e) => return .error (.routing e)
    | .error (.decision e) => return .error (.decision e)

end Sending

namespace Network

/-! ### Setting up -/

/-- Joins the two sides of an edge. -/
def join (wiring : Std.HashMap LinkEnd LinkEnd) :
    Edge × (UInt32 × UInt32) → Std.HashMap LinkEnd LinkEnd
  | ((a, b), (atFirst, atSecond)) =>
    (wiring.insert ⟨a, atFirst⟩ ⟨b, atSecond⟩).insert ⟨b, atSecond⟩ ⟨a, atFirst⟩

/-- The wiring of a topology under a plan. -/
def wire (t : Topology) (plan : AddressPlan) : Std.HashMap LinkEnd LinkEnd :=
  (t.edges.zip plan.indices.toList).foldl join ∅

/-- The router of a node, with the interfaces of the plan. -/
def routerOf (plan : AddressPlan) (arbiter : Arbiter Ecmp) : Except NetworkError (Router Ecmp) := do
  let addresses ← (plan.interfacesOf arbiter.node).mapError NetworkError.topology
  let router ← (Router.ofAddresses addresses.toList).mapError NetworkError.routing
  return router.setArbiter arbiter

/-- The network of a topology, under its own plan and the default parameters. -/
def build (t : Topology) : Except NetworkError Network := do
  let plan ← (AddressPlan.assign t).mapError NetworkError.topology
  let arbiters ← (installEcmp t plan {}).value.mapError NetworkError.topology
  let routers ← arbiters.mapM (routerOf plan)
  return ⟨t, plan, routers.toArray, wire t plan, 0⟩

/-! ### Sending -/

variable (net : Network)

/-- The route by which a packet leaves its source. -/
def outputAt (s : Shipment) (packet : Packet) (header : Ipv4Header) : Sending Route := do
  let router ← Sending.ofRead (Failure.read net.routers s.source.toNat)
  match ← Sending.ofRouter (router.output packet header none) with
  | .ok route => return route
  | .error .noRouteToHost => throw (.noRoute s.source s.destination)

/-- Follows a packet that leaves at `exit` after having visited `path`; at most `left` more nodes
may take it.  Yields all nodes that it visited. -/
def walk (packet : Packet) (header : Ipv4Header) (left : Nat) (exit : LinkEnd)
    (path : List NodeId) : Sending (List NodeId) :=
  match net.wiring[exit]? with
  | none => throw (.unwired exit)
  | some entry =>
    let path := path ++ [entry.node]
    match left with
    | 0 => throw (.forwardingLoop path)
    | left + 1 => do
      let router ← Sending.ofRead (Failure.read net.routers entry.node.toNat)
      match ← Sending.ofRouter (router.input packet header entry.index) with
      | .deliver _ => return path
      | .forward route => walk packet header left ⟨entry.node, route.outIndex⟩ path
      | .drop => throw (.dropped entry.node path)

/-- Transmits the packet with identifier `uid` between two endpoints. -/
def transmit (uid : UInt64) (s : Shipment) : Sending (List NodeId) := do
  let own ← Sending.ofRead (net.plan.interfacesOf s.destination)
  let first ← Sending.ofRead (Failure.read own 1)
  let destination := first.address
  let probe ← net.outputAt s ⟨uid, 0, none⟩ (.probe destination tcpProtocol)
  let packet : Packet := ⟨uid, s.payloadSize, some (.tcp s.sourcePort s.destinationPort)⟩
  let header : Ipv4Header :=
    { source := probe.source, destination := destination, protocol := tcpProtocol }
  let route ← net.outputAt s packet header
  net.walk packet header (net.topology.size - 1) ⟨s.source, route.outIndex⟩ [s.source]

/-- Sends a packet.  Yields the network, which has counted the packet if both ends are endpoints,
and the nodes that the packet visited. -/
def send (s : Shipment) : Network × Logged (Except SendFailure (List NodeId)) :=
  if !net.topology.isEndpoint s.source then
    (net, pure (.error (.invalidEndpoint s.source)))
  else if !net.topology.isEndpoint s.destination then
    (net, pure (.error (.invalidEndpoint s.destination)))
  else
    let uid := net.sent + 1
    ({ net with sent := uid }, (net.transmit uid s).run)

end Network

end Multipath
