/-!
# Faults of a router's use

Demands on a router that it does not meet: interfaces that were set up in another way than
point-to-point forwarding needs, or questions that it cannot answer.
-/

namespace Multipath

/-- A fault in the use of a router. -/
inductive RoutingError where
  /-- There is nobody to decide. -/
  | arbiterNotSet
  /-- A packet was to leave on an interface of the caller's choice. -/
  | outputInterfaceRequested
  /-- Interface 0 came up with another address than that of loop-back. -/
  | badLoopback
  /-- A link came up with another prefix length than that of links. -/
  | badSubnetMask (interface : UInt32)
  /-- The router has no such interface. -/
  | noSuchInterface (interface : UInt32)
  /-- The interface came up without an address. -/
  | missingAddress (interface : UInt32)
  /-- The interface was to go down. -/
  | interfaceDown (interface : UInt32)
  /-- The interface was to change its address while it was up. -/
  | addAddressAfterUp (interface : UInt32)
  /-- The interface was to lose its address. -/
  | removeAddress (interface : UInt32)
  deriving DecidableEq

namespace RoutingError

/-- The text that reports a fault. -/
def message : RoutingError → String
  | arbiterNotSet => "Arbiter has not been set"
  | outputInterfaceRequested => "Requested output interfaces are not supported"
  | badLoopback => "Loopback interface 0 must have IP 127.0.0.1 and mask 255.0.0.0"
  | badSubnetMask interface =>
    s!"Each interface must have a subnet mask of 255.255.255.0 (interface {interface})"
  | noSuchInterface interface => s!"Interface {interface} does not exist"
  | missingAddress interface =>
    s!"Each interface is permitted exactly one IP address (interface {interface} has none)"
  | interfaceDown interface => s!"Interfaces are not permitted to go down (interface {interface})"
  | addAddressAfterUp interface =>
    "Not permitted to add IP addresses after the interface has gone up " ++
      s!"(interface {interface})"
  | removeAddress interface => s!"Not permitted to remove IP addresses (interface {interface})"

/-- The name of a fault. -/
def kind : RoutingError → String
  | arbiterNotSet => "ArbiterNotSet"
  | outputInterfaceRequested => "OutputInterfaceRequested"
  | badLoopback => "BadLoopback"
  | badSubnetMask _ => "BadSubnetMask"
  | noSuchInterface _ => "NoSuchInterface"
  | missingAddress _ => "MissingAddress"
  | interfaceDown _ => "InterfaceDown"
  | addAddressAfterUp _ => "AddAddressAfterUp"
  | removeAddress _ => "RemoveAddress"

/-- The interface that a fault is about. -/
def interface? : RoutingError → Option UInt32
  | arbiterNotSet => none
  | outputInterfaceRequested => none
  | badLoopback => none
  | badSubnetMask interface => some interface
  | noSuchInterface interface => some interface
  | missingAddress interface => some interface
  | interfaceDown interface => some interface
  | addAddressAfterUp interface => some interface
  | removeAddress interface => some interface

/-- The text of a fault where nobody was prepared for one.  It shows the fault as a value. -/
def unhandled (e : RoutingError) : String :=
  "called `Result::unwrap()` on an `Err` value: " ++
    match e.interface? with
    | none => e.kind
    | some interface => e.kind ++ s!" \x7b interface: {interface} \x7d"

end RoutingError

end Multipath
