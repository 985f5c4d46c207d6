import Multipath.Arbiter.Error
import Std.Data.ExtTreeMap

/-!
# Who owns an address

A `Resolver` maps addresses to the nodes that own them.  Two resolvers are equal exactly if they
resolve alike, whatever the order in which their entries were given.
-/

namespace Multipath

/-- A finite map from addresses to their owners. -/
structure Resolver where
  owners : Std.ExtTreeMap Ipv4 NodeId

namespace Resolver

/-- The resolver with the given entries; of several entries for one address the last counts. -/
def ofEntries (entries : List (Ipv4 × NodeId)) : Resolver where
  owners := Std.ExtTreeMap.ofList entries

/-- The entries in increasing order of their addresses. -/
def entries (r : Resolver) : List (Ipv4 × NodeId) :=
  r.owners.toList

/-- The number of addresses with an owner. -/
def size (r : Resolver) : Nat :=
  r.owners.size

/-- Whether no address has an owner. -/
def isEmpty (r : Resolver) : Bool :=
  r.owners.isEmpty

/-- The owner of an address. -/
def resolve (r : Resolver) (ip : Ipv4) : Except ArbiterError NodeId :=
  match r.owners[ip]? with
  | some node => .ok node
  | none => .error (.unknownAddress ip)

theorem eq_of_owners {r s : Resolver} (h : ∀ ip : Ipv4, r.owners[ip]? = s.owners[ip]?) : r = s := by
  cases r
  cases s
  simpa using Std.ExtTreeMap.ext_getElem? h

end Resolver

end Multipath
