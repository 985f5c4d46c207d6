import Multipath.Json.Stored

/-!
# Reading back what was written

`LawfulStored α` says that every value of `α` is read back from its stored form.  Numbers are read
back because each fits into its own type; lists, pairs and sets are read back because their elements
are; and of a record each member is found under its name, whatever else the record holds.

Reading is more liberal than writing, so there are many forms of one value.  But reading a form and
writing the value again (`rewritten`) leads to a form that stays what it is (`Survives`).
-/

namespace Multipath

open Stored

/-- The types whose values are read back from their stored forms. -/
class LawfulStored (α : Type) [Stored α] : Prop where
  restore_store (x : α) : restore (store x) = some x

export LawfulStored (restore_store)

attribute [simp] restore_store

/-- A stored form, read and written once more. -/
def rewritten (α : Type) [Stored α] (j : Json) : Option Json :=
  (restore j : Option α).map store

/-- Whatever is written is read back, and whatever could be read is written in a form that stays
as it is from then on. -/
structure Survives (α : Type) [Stored α] : Prop where
  restores (x : α) : restore (store x) = some x
  settles (j j' : Json) : rewritten α j = some j' → rewritten α j' = some j'

theorem Survives.of_lawful {α : Type} [Stored α] [LawfulStored α] : Survives α where
  restores := restore_store
  settles j j' h := by
    obtain ⟨x, -, rfl⟩ := Option.map_eq_some_iff.mp h
    rw [rewritten, restore_store, Option.map_some]

/-! ### Numbers -/

theorem restoreBelow_int {n bound : Nat} (h : n < bound) : restoreBelow bound (.int n) = some n :=
  if_pos h

instance : LawfulStored UInt8 where
  restore_store n := by
    simp only [store, restore, restoreBelow_int n.toNat_lt_size, Option.map_some, UInt8.ofNat_toNat]

instance : LawfulStored UInt16 where
  restore_store n := by
    simp only [store, restore, restoreBelow_int n.toNat_lt_size, Option.map_some,
      UInt16.ofNat_toNat]

instance : LawfulStored UInt32 where
  restore_store n := by
    simp only [store, restore, restoreBelow_int n.toNat_lt_size, Option.map_some,
      UInt32.ofNat_toNat]

instance : LawfulStored UInt64 where
  restore_store n := by
    simp only [store, restore, restoreBelow_int n.toNat_lt_size, Option.map_some,
      UInt64.ofNat_toNat]

/-! ### Simple and composed values -/

instance : LawfulStored Bool where
  restore_store _ := rfl

instance : LawfulStored Unit where
  restore_store _ := rfl

section

variable {α β : Type} [Stored α] [LawfulStored α] [Stored β] [LawfulStored β]

/-- What may be missing is read back if none of the values it may have is written as null. -/
theorem restore_store_option (hnull : ∀ x : α, store x ≠ .null) (o : Option α) :
    restore (store o) = some o := by
  cases o with
  | none => rfl
  | some x =>
      have hne := hnull x
      have hread := restore_store x
      show (restore (store x) : Option (Option α)) = some (some x)
      generalize store x = j at hne hread ⊢
      cases j with
      | null => exact absurd rfl hne
      | _ => exact congrArg (Option.map some) hread

/-- If it is known what every element is read as, so it is of a list of them. -/
theorem mapM_map_eq_some {γ δ ε : Type} {write : γ → δ} {read : δ → Option ε} {f : γ → ε}
    (h : ∀ x, read (write x) = some (f x)) (xs : List γ) :
    (xs.map write).mapM read = some (xs.map f) := by
  have hread : read ∘ write = fun x => pure (f x) := funext h
  rw [List.mapM_map, hread, List.mapM_pure]
  rfl

/-- If every element can be read back, so can a list of them. -/
theorem mapM_map_of_leftInverse {γ δ : Type} {write : γ → δ} {read : δ → Option γ}
    (h : ∀ x, read (write x) = some x) (xs : List γ) : (xs.map write).mapM read = some xs := by
  simpa using mapM_map_eq_some (f := id) h xs

instance : LawfulStored (List α) where
  restore_store xs := mapM_map_of_leftInverse restore_store xs

instance : LawfulStored (Array α) where
  restore_store xs := by
    show (restore (store xs.toList) : Option (List α)).map List.toArray = some xs
    rw [restore_store, Option.map_some]

instance : LawfulStored (α × β) where
  restore_store x := by
    show (do return (← restore (store x.1), ← restore (store x.2))) = some x
    simp

end

/-! ### Sets -/

/-- A set is read from any list of its elements. -/
theorem restore_set_of_list (xs : List UInt32) :
    restore (store xs) = some (Std.ExtTreeSet.ofList xs) := by
  show (restore (store xs)).map (fun (xs : List UInt32) => Std.ExtTreeSet.ofList xs) = _
  rw [restore_store, Option.map_some]

/-- What is written of such a set are the same elements, without repetitions and in their order. -/
theorem rewritten_set_of_list (xs : List UInt32) : ∃ ys : List UInt32,
    rewritten (Std.ExtTreeSet UInt32) (store xs) = some (store ys) ∧ ys.Pairwise (· < ·) ∧
      ∀ x, x ∈ ys ↔ x ∈ xs := by
  refine ⟨(Std.ExtTreeSet.ofList xs).toList, ?_, ?_, ?_⟩
  · rw [rewritten, restore_set_of_list]
    rfl
  · exact Std.ExtTreeSet.ordered_toList.imp Std.compare_eq_lt.mp
  · intro x
    rw [Std.ExtTreeSet.mem_toList, Std.ExtTreeSet.mem_ofList, List.contains_iff_mem]

example : rewritten (Std.ExtTreeSet UInt32) (.arr [.int 3, .int 1, .int 3]) =
    some (.arr [.int 1, .int 3]) := rfl

instance : LawfulStored (Std.ExtTreeSet UInt32) where
  restore_store s := by
    show restore (store s.toList) = some s
    rw [restore_set_of_list, Option.some.injEq]
    apply Std.ExtTreeSet.ext_mem
    intro x
    rw [Std.ExtTreeSet.mem_ofList, List.contains_iff_mem, Std.ExtTreeSet.mem_toList]

/-! ### Records -/

namespace Json

variable {members : List (String × Json)} {content : Json} {name other : String} {position : Nat}

@[simp] theorem isRecord_obj (n : Nat) : (obj members).isRecord n = true := rfl

@[simp] theorem member_obj_cons : (obj ((other, content) :: members)).member position name =
    if name = other then some content else (obj members).member position name := by
  show List.lookup name ((other, content) :: members) = _
  rw [List.lookup_cons]
  split
  · next h => rw [if_pos (beq_iff_eq.mp h)]
  · next h => rw [if_neg (beq_eq_false_iff_ne.mp h)]; rfl

/-- A member that is missing is replaced by the default, and one that is there is read. -/
theorem withDefault_of_lookup {α : Type} [Stored α] [LawfulStored α] {found : Option α}
    (h : members.lookup name = found.map store) (position : Nat) (default : α) :
    (obj members).withDefault position name default = some (found.getD default) := by
  rw [withDefault, member, h]
  cases found with
  | none => rfl
  | some x => exact restore_store x

end Json

end Multipath
