import Multipath.Arbiter.Basic
import Multipath.Router.Error

/-!
# Routers and their interfaces

A `Router` has interfaces, numbered in the order in which they were added, and perhaps an arbiter.

An interface starts down and without an address.  Its address can be set, also repeatedly, until it
goes up; it goes up only with the right kind of address, stays up, and keeps its address.

What may be refused is an `Operation`: it changes the router step by step, and what it has changed
until it is refused is not taken back.
-/

namespace Multipath

/-- The state of an interface. -/
structure Interface where
  address : Option InterfaceAddress := none
  up : Bool := false
  deriving DecidableEq

/-- The router of one node. -/
structure Router (π : Type) where
  interfaces : Array Interface
  arbiter : Option (Arbiter π)

namespace Router

variable {π : Type}

/-- An operation on a router, which may be refused.  It leaves a router in either case. -/
abbrev Operation (π α : Type) := EStateM RoutingError (Router π) α

/-- The router without interfaces or arbiter. -/
def empty : Router π := ⟨#[], none⟩

/-- Adds an interface; the result starts with its number. -/
def addInterface (r : Router π) : UInt32 × Router π :=
  (UInt32.ofNat r.interfaces.size, { r with interfaces := r.interfaces.push {} })

/-- Gives the router an arbiter in place of any that it had. -/
def setArbiter (r : Router π) (a : Arbiter π) : Router π :=
  { r with arbiter := some a }

/-- The state of interface `i`. -/
def interface (r : Router π) (i : UInt32) : Except RoutingError Interface :=
  match r.interfaces[i.toNat]? with
  | some x => .ok x
  | none => .error (.noSuchInterface i)

/-- Changes the state of interface `i`. -/
def update (r : Router π) (i : UInt32) (change : Interface → Interface) : Router π :=
  { r with interfaces := r.interfaces.modify i.toNat change }

/-- Sets the address of interface `i`, which must be down. -/
def addAddress (i : UInt32) (address : InterfaceAddress) : Operation π Unit := do
  let x ← MonadExcept.ofExcept ((← get).interface i)
  if x.up then throw (.addAddressAfterUp i)
  modify (·.update i ({ · with address := some address }))

/-- Whether interface `i` may go up with an address: interface 0 is loop-back, the others are
links. -/
def checkAddress (i : UInt32) (address : InterfaceAddress) : Except RoutingError Unit :=
  if i = 0 then
    if address = InterfaceAddress.loopback then .ok () else .error .badLoopback
  else
    if address.prefixLen = InterfaceAddress.linkPrefixLen then .ok ()
    else .error (.badSubnetMask i)

/-- Brings interface `i` up. -/
def bringUp (i : UInt32) : Operation π Unit := do
  let x ← MonadExcept.ofExcept ((← get).interface i)
  match x.address with
  | none => throw (.missingAddress i)
  | some address =>
    MonadExcept.ofExcept (checkAddress i address)
    modify (·.update i ({ · with up := true }))

/-- Interfaces never go down. -/
def takeDown (i : UInt32) : Operation π Unit :=
  throw (.interfaceDown i)

/-- Addresses are never removed. -/
def removeAddress (i : UInt32) : Operation π Unit :=
  throw (.removeAddress i)

/-- Adds an interface and gives it its address. -/
def addWithAddress (address : InterfaceAddress) : Operation π Unit := do
  let i ← modifyGet addInterface
  addAddress i address

/-- The router that an operation makes of `r`.  If it is refused, there is only the refusal. -/
def outcome (x : Operation π Unit) (r : Router π) : Except RoutingError (Router π) :=
  match x.run r with
  | .ok _ r' => .ok r'
  | .error e _ => .error e

/-- Adds interfaces with the given addresses and brings them up.  All addresses are set before the
first interface goes up. -/
def setUp (addresses : List InterfaceAddress) : Operation π Unit := do
  addresses.forM addWithAddress
  (List.range addresses.length).forM fun i => bringUp (UInt32.ofNat i)

/-- The router whose interfaces have the given addresses and are up. -/
def ofAddresses (addresses : List InterfaceAddress) : Except RoutingError (Router π) :=
  outcome (setUp addresses) empty

/-- Whether an address is that of any interface, up or down. -/
def isLocal (r : Router π) (ip : Ipv4) : Bool :=
  r.interfaces.any fun x => x.address.any (·.address == ip)

/-- The address with which packets leave on interface `i`. -/
def sourceAddress (r : Router π) (i : UInt32) : Ipv4 :=
  match r.interfaces[i.toNat]? with
  | some { address := some a, .. } => a.address
  | _ => Ipv4.unspecified

end Router

end Multipath
