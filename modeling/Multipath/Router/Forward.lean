import Multipath.Router.Basic

/-!
# Forwarding

What a router does with packets, once it has interfaces and an arbiter.

* `Router.output` finds the route of a packet that originates here; a socket also calls it with a
  probe, to learn the source address of what it is about to send.
* `Router.input` handles a packet that came in on an interface: it is delivered if its destination
  is an address of this node, whatever the interface, and otherwise forwarded or dropped.

Both ask the arbiter in the same way (`Router.lookup`).  A fault of the decision is final.
-/

namespace Multipath

/-- How a packet leaves. -/
structure Route where
  destination : Ipv4
  /-- The address of the interface on which the packet leaves. -/
  source : Ipv4
  gateway : Ipv4
  /-- The number of that interface. -/
  outIndex : UInt32
  deriving DecidableEq

/-- Why a socket cannot send. -/
inductive SocketError where
  | noRouteToHost
  deriving DecidableEq

/-- What becomes of a packet that came in. -/
inductive InputAction where
  /-- The packet, received on the interface `index`, is for this node. -/
  | deliver (index : UInt32)
  | forward (route : Route)
  | drop
  deriving DecidableEq

/-- Why a router has no answer. -/
inductive RouterFailure where
  /-- The router cannot be used in this way. -/
  | routing (e : RoutingError)
  /-- The decision failed for good. -/
  | decision (e : Failure ArbiterError)
  deriving DecidableEq

namespace Router

variable {π : Type} [Policy π]

/-- The route over a hop. -/
def routeOver (r : Router π) (destination : Ipv4) (hop : NextHop) : Route where
  destination := destination
  source := r.sourceAddress hop.index
  gateway := hop.gateway
  outIndex := hop.index

/-- The route of a packet, `none` if there is no next hop.  An interface cannot be asked for. -/
def lookup (r : Router π) (packet : Packet) (header : Ipv4Header) (requested : Option UInt32) :
    Logged (Except RouterFailure (Option Route)) :=
  match r.arbiter with
  | none => pure (.error (.routing .arbiterNotSet))
  | some arbiter =>
    if requested.isSome then pure (.error (.routing .outputInterfaceRequested))
    else do
      match ← arbiter.decideLogged packet header with
      | .error e => return .error (.decision e)
      | .ok .noRoute => return .ok none
      | .ok (.forward hop) => return .ok (some (r.routeOver header.destination hop))

/-- The route of a packet that originates at this node. -/
def output (r : Router π) (packet : Packet) (header : Ipv4Header) (requested : Option UInt32) :
    Logged (Except RouterFailure (Except SocketError Route)) := do
  match ← r.lookup packet header requested with
  | .error e => return .error e
  | .ok (some route) => return .ok (.ok route)
  | .ok none =>
    Logged.emit (.noRouteToHost header.destination header.isProbe)
    return .ok (.error .noRouteToHost)

/-- What becomes of a packet that came in on interface `index`. -/
def input (r : Router π) (packet : Packet) (header : Ipv4Header) (index : UInt32) :
    Logged (Except RouterFailure InputAction) := do
  match r.interface index with
  | .error e => return .error (.routing e)
  | .ok _ =>
    if r.isLocal header.destination then
      Logged.emit (.delivered packet.uid index)
      return .ok (.deliver index)
    else
      match ← r.lookup packet header none with
      | .error e => return .error e
      | .ok (some route) => return .ok (.forward route)
      | .ok none =>
        Logged.emit (.dropped packet.uid header.destination)
        return .ok .drop

/-- The forwarding state as text. -/
def table (r : Router π) : Except RoutingError String :=
  match r.arbiter with
  | some arbiter => .ok arbiter.dump
  | none => .error .arbiterNotSet

end Router

end Multipath
