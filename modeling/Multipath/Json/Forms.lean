import Multipath.Addressing.Plan
import Multipath.Arbiter.Ecmp
import Multipath.Candidates
import Multipath.Json.Stored
import Multipath.Router.Forward

/-!
# Stored forms

How the values of forwarding are written: records by the names of their members, choices by the
name of the case, addresses as dotted text.  Nothing beyond the types of the members is checked
when they are read, so a restored topology may disagree with itself.
-/

namespace Multipath

open Stored

/-! ### Addresses -/

instance : Stored Ipv4 where
  store ip := .str ip.text
  restore
    | .str s => Ipv4.ofText? s
    | _ => none

instance : Stored InterfaceAddress where
  store a := .obj [("local", store a.address), ("prefix_len", store a.prefixLen)]
  restore j := do
    guard (j.isRecord 2)
    return ⟨← j.required 0 "local", ← j.required 1 "prefix_len"⟩

instance : Stored AddressPlan where
  store p :=
    .obj [("interface_idxs_for_edges", store p.indices), ("node_interfaces", store p.interfaces)]
  restore j := do
    guard (j.isRecord 2)
    return ⟨← j.required 0 "interface_idxs_for_edges", ← j.required 1 "node_interfaces"⟩

/-- The owner of one address, as a member of an object. -/
def storeOwner (entry : Ipv4 × NodeId) : String × Json :=
  (entry.1.text, store entry.2)

/-- Reads a member of an object as the owner of an address. -/
def restoreOwner (entry : String × Json) : Option (Ipv4 × NodeId) :=
  return (← Ipv4.ofText? entry.1, ← restore entry.2)

instance : Stored Resolver where
  store r := .obj [("ip_to_node_id", .obj (r.entries.map storeOwner))]
  restore j := do
    guard (j.isRecord 1)
    match j.member 0 "ip_to_node_id" with
    | some (.obj members) => return Resolver.ofEntries (← members.mapM restoreOwner)
    | _ => none

/-! ### Decisions -/

instance : Stored LinkIndex where
  store i := store i.val
  restore j := (restore j).bind LinkIndex.ofNumber?

instance : Stored Egress where
  store
    | .loopback => .str "Loopback"
    | .link i => .obj [("Interface", store i)]
  restore j :=
    match j.case? with
    | some ("Loopback", none) => some .loopback
    | some ("Loopback", some .null) => some .loopback
    | some ("Interface", some content) => (restore content).map .link
    | _ => none

instance : Stored NextHop where
  store h := .obj [("egress", store h.egress), ("gateway", store h.gateway)]
  restore j := do
    guard (j.isRecord 2)
    return ⟨← j.required 0 "egress", ← j.required 1 "gateway"⟩

instance : Stored Decision where
  store
    | .forward hop => .obj [("Ok", store hop)]
    | .noRoute => .obj [("Err", .null)]
  restore j :=
    match j.case? with
    | some ("Ok", some content) => (restore content).map .forward
    | some ("Err", some .null) => some .noRoute
    | _ => none

/-! ### Packets -/

instance : Stored Ipv4Header where
  store h := .obj [
    ("source", store h.source),
    ("destination", store h.destination),
    ("protocol", store h.protocol),
    ("fragment_offset", store h.fragmentOffset),
    ("more_fragments", store h.moreFragments)]
  restore j := do
    guard (j.isRecord 5)
    return {
      source := ← j.required 0 "source"
      destination := ← j.required 1 "destination"
      protocol := ← j.required 2 "protocol"
      fragmentOffset := ← j.required 3 "fragment_offset"
      moreFragments := ← j.required 4 "more_fragments" }

/-- The ports of a transport header as an object. -/
def storePorts (source destination : UInt16) : Json :=
  .obj [("source_port", store source), ("destination_port", store destination)]

/-- Reads the ports of a transport header, which must be an object. -/
def restorePorts : Json → Option (UInt16 × UInt16)
  | .obj members =>
    return (← (Json.obj members).required 0 "source_port",
      ← (Json.obj members).required 1 "destination_port")
  | _ => none

instance : Stored TransportHeader where
  store
    | .tcp s d => .obj [("Tcp", storePorts s d)]
    | .udp s d => .obj [("Udp", storePorts s d)]
  restore j :=
    match j.case? with
    | some ("Tcp", some content) => (restorePorts content).map fun (s, d) => .tcp s d
    | some ("Udp", some content) => (restorePorts content).map fun (s, d) => .udp s d
    | _ => none

instance : Stored Packet where
  store p := .obj [
    ("uid", store p.uid),
    ("payload_size", store p.payloadSize),
    ("transport", store p.transport)]
  restore j := do
    guard (j.isRecord 3)
    return ⟨← j.required 0 "uid", ← j.required 1 "payload_size", ← j.optional 2 "transport"⟩

/-! ### Networks -/

instance : Stored Topology where
  store t := .obj [
    ("num_nodes", store t.numNodes),
    ("undirected_edges", store t.edges),
    ("adjacency", store t.adjacency),
    ("endpoints", store t.endpoints)]
  restore j := do
    guard (j.isRecord 4)
    return {
      numNodes := ← j.required 0 "num_nodes"
      edges := ← j.required 1 "undirected_edges"
      adjacency := ← j.required 2 "adjacency"
      endpoints := ← j.required 3 "endpoints" }

/-- Missing parameters have their default, also at the end of an array. -/
instance : Stored Params where
  store p := .obj [("max_nodes", store p.maxNodes), ("hash_salt", store p.hashSalt)]
  restore j := do
    guard (j.isRecord 0 || j.isRecord 1 || j.isRecord 2)
    let default : Params := {}
    return {
      maxNodes := ← j.withDefault 0 "max_nodes" default.maxNodes
      hashSalt := ← j.withDefault 1 "hash_salt" default.hashSalt }

instance : Stored CandidateTable where
  store c := .obj [("candidates", store c.rows)]
  restore j := do
    guard (j.isRecord 1)
    return ⟨← j.required 0 "candidates"⟩

instance : Stored Ecmp where
  store p := .obj [("candidate_list", store p.candidates), ("hash_salt", store p.hashSalt)]
  restore j := do
    guard (j.isRecord 2)
    return ⟨← j.required 0 "candidate_list", ← j.required 1 "hash_salt"⟩

/-! ### Routes -/

instance : Stored Route where
  store r := .obj [
    ("destination", store r.destination),
    ("source", store r.source),
    ("gateway", store r.gateway),
    ("out_if_idx", store r.outIndex)]
  restore j := do
    guard (j.isRecord 4)
    return {
      destination := ← j.required 0 "destination"
      source := ← j.required 1 "source"
      gateway := ← j.required 2 "gateway"
      outIndex := ← j.required 3 "out_if_idx" }

instance : Stored SocketError where
  store
    | .noRouteToHost => .str "NoRouteToHost"
  restore j :=
    match j.case? with
    | some ("NoRouteToHost", none) => some .noRouteToHost
    | some ("NoRouteToHost", some .null) => some .noRouteToHost
    | _ => none

instance : Stored InputAction where
  store
    | .deliver index => .obj [("LocalDeliver", .obj [("iif", store index)])]
    | .forward route => .obj [("Forward", store route)]
    | .drop => .str "Drop"
  restore j :=
    match j.case? with
    | some ("LocalDeliver", some (.obj members)) =>
      ((Json.obj members).required 0 "iif").map .deliver
    | some ("Forward", some content) => (restore content).map .forward
    | some ("Drop", none) => some .drop
    | some ("Drop", some .null) => some .drop
    | _ => none

end Multipath
