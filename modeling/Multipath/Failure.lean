/-!
# Failures

A topology that was built from its edges is consistent, but tables and plans can also be computed
from one that was stored and restored unchecked.  Besides the errors that an operation reports on
its own account, it then may read a table out of its bounds.

There is always room for a table, however large it is.  That memory is limited, and with it the
number of nodes for which a table can be laid out at all, is left out of account.
-/

namespace Multipath

/-- Why an operation gives no result: an error of its own kind, or a read out of bounds. -/
inductive Failure (ε : Type) where
  /-- The operation reports `e`. -/
  | error (e : ε)
  /-- A table of `length` entries was read at `index`. -/
  | outOfBounds (length index : Nat)
  deriving DecidableEq

namespace Failure

/-- The text of a failure, given the texts of the errors. -/
def message {ε : Type} (errorText : ε → String) : Failure ε → String
  | error e => errorText e
  | outOfBounds length index =>
    s!"index out of bounds: the len is {length} but the index is {index}"

/-- An operation that can only fail on its own account. -/
def lift {ε α : Type} : Except ε α → Except (Failure ε) α
  | .ok x => .ok x
  | .error e => .error (.error e)

@[simp] theorem lift_ok {ε α : Type} (x : α) : lift (.ok x : Except ε α) = .ok x := rfl

@[simp] theorem lift_error {ε α : Type} (e : ε) :
    lift (.error e : Except ε α) = .error (.error e) := rfl

theorem lift_eq_ok_iff {ε α : Type} {x : Except ε α} {y : α} : lift x = .ok y ↔ x = .ok y := by
  cases x with
  | error e => simp
  | ok x => simp

/-- The entry of `table` at `index`. -/
def read {ε α : Type} (table : Array α) (index : Nat) : Except (Failure ε) α :=
  match table[index]? with
  | some x => .ok x
  | none => .error (.outOfBounds table.size index)

theorem read_eq_ok {ε α : Type} {table : Array α} {index : Nat} (h : index < table.size) :
    read table index = (.ok table[index] : Except (Failure ε) α) := by
  simp [read, h]

theorem read_eq_error {ε α : Type} {table : Array α} {index : Nat} (h : table.size ≤ index) :
    read table index = (.error (.outOfBounds table.size index) : Except (Failure ε) α) := by
  simp [read, h]

end Failure

end Multipath
