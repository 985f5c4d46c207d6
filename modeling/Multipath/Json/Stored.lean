import Multipath.Json.Value
import Std.Data.ExtTreeSet

/-!
# Stored values

`Stored α` says how the values of `α` are written as JSON and read back.  Reading refuses whatever
cannot stand for a value, but is more liberal than writing: of an object it ignores members that
it does not know, and a set may be listed in any order and with repetitions.

This module gives the forms of numbers, lists, pairs and sets, and the means to read records.
-/

namespace Multipath

/-- How the values of a type are written and read. -/
class Stored (α : Type) where
  store : α → Json
  restore : Json → Option α

open Stored

/-! ### Basic forms -/

/-- Reads a natural number below `bound`. -/
def restoreBelow (bound : Nat) : Json → Option Nat
  | .int (.ofNat n) => if n < bound then some n else none
  | _ => none

instance : Stored UInt8 where
  store n := .int n.toNat
  restore j := (restoreBelow UInt8.size j).map UInt8.ofNat

instance : Stored UInt16 where
  store n := .int n.toNat
  restore j := (restoreBelow UInt16.size j).map UInt16.ofNat

instance : Stored UInt32 where
  store n := .int n.toNat
  restore j := (restoreBelow UInt32.size j).map UInt32.ofNat

instance : Stored UInt64 where
  store n := .int n.toNat
  restore j := (restoreBelow UInt64.size j).map UInt64.ofNat

instance : Stored Bool where
  store := .bool
  restore
    | .bool b => some b
    | _ => none

/-- What carries no information is null. -/
instance : Stored Unit where
  store _ := .null
  restore
    | .null => some ()
    | _ => none

instance {α : Type} [Stored α] : Stored (Option α) where
  store
    | some x => store x
    | none => .null
  restore
    | .null => some none
    | j => (restore j).map some

instance {α : Type} [Stored α] : Stored (List α) where
  store xs := .arr (xs.map store)
  restore
    | .arr items => items.mapM restore
    | _ => none

instance {α : Type} [Stored α] : Stored (Array α) where
  store xs := store xs.toList
  restore j := (restore j : Option (List α)).map List.toArray

instance {α β : Type} [Stored α] [Stored β] : Stored (α × β) where
  store x := .arr [store x.1, store x.2]
  restore
    | .arr [a, b] => return (← restore a, ← restore b)
    | _ => none

/-- A set is listed in increasing order. -/
instance : Stored (Std.ExtTreeSet UInt32) where
  store s := store s.toList
  restore j := (restore j).map fun (xs : List UInt32) => Std.ExtTreeSet.ofList xs

/-! ### Members of records -/

namespace Json

variable {α : Type} [Stored α]

/-- A member that must be there. -/
def required (j : Json) (position : Nat) (name : String) : Option α :=
  (j.member position name).bind restore

/-- A member that may be missing. -/
def optional (j : Json) (position : Nat) (name : String) : Option (Option α) :=
  match j.member position name with
  | some content => restore content
  | none => some none

/-- A member that counts as `default` if it is missing. -/
def withDefault (j : Json) (position : Nat) (name : String) (default : α) : Option α :=
  match j.member position name with
  | some content => restore content
  | none => some default

end Json

end Multipath
