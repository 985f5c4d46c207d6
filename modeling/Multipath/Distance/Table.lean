import Multipath.Distance
import Multipath.Topology.Basic

/-!
# Distances between all pairs of nodes

`DistanceTable.compute` finds the hop distance between every two nodes of a topology.

* The table is one row of `n * n` cells; the distance from `a` to `b` stands at `n * a + b`.
* It starts with 0 from a node to itself, 1 along each edge and `unreachable` elsewhere.
* Round `k` allows node `k` as a stop on the way: each row `i` from which `k` can be reached is
  lowered, cell by cell and in place, to what the way through `k` costs (`relaxRow`).  Rows that
  were lowered earlier in the same round are read in their new form.

Positions are checked as positions in the whole table, so a node outside the network is noticed
only if it points behind the last cell.
-/

namespace Multipath

/-- Hop distances between `size` nodes. -/
structure DistanceTable where
  size : Nat
  cells : Vector Distance (size * size)

namespace DistanceTable

variable {n : Nat}

/-- The place in the table of the distance from `i` to `j`. -/
def position (i j : Fin n) : Fin (n * n) :=
  ⟨n * i + j, by
    calc n * i.val + j.val < n * i.val + n := Nat.add_lt_add_left j.isLt _
      _ = n * (i.val + 1) := (Nat.mul_succ n i.val).symm
      _ ≤ n * n := Nat.mul_le_mul_left n i.isLt⟩

/-- Every node at distance 0 from itself, and no other connection. -/
def isolated (n : Nat) : Vector Distance (n * n) :=
  Vector.ofFn fun p => if p.val / n = p.val % n then 0 else Distance.unreachable

/-- Puts distance 1 into one cell. -/
def markAdjacent {ε : Type} {m : Nat} (cells : Vector Distance m) (index : Nat) :
    Except (Failure ε) (Vector Distance m) :=
  if h : index < m then .ok (cells.set index 1 h) else .error (.outOfBounds m index)

/-- Puts distance 1 between the ends of an edge, in both directions. -/
def addEdge {ε : Type} (cells : Vector Distance (n * n)) (e : Edge) :
    Except (Failure ε) (Vector Distance (n * n)) := do
  let cells ← markAdjacent cells (n * e.1.toNat + e.2.toNat)
  markAdjacent cells (n * e.2.toNat + e.1.toNat)

/-- Lowers the distance from `i` to `j` to that of the way through `k`, if that is shorter;
`toStop` is the distance from `i` to `k`. -/
def relax (k i : Fin n) (toStop : Distance) (cells : Vector Distance (n * n)) (j : Fin n) :
    Vector Distance (n * n) :=
  let through := Distance.add toStop (cells.get (position k j))
  if through < cells.get (position i j) then
    cells.set (position i j).val through (position i j).isLt
  else cells

/-- Lowers the distances from `i` by ways through `k`. -/
def relaxRow (k : Fin n) (cells : Vector Distance (n * n)) (i : Fin n) :
    Vector Distance (n * n) :=
  let toStop := cells.get (position i k)
  if toStop = Distance.unreachable then cells
  else (List.finRange n).foldl (relax k i toStop) cells

/-- Lowers all distances by ways through `k`. -/
def relaxRound (cells : Vector Distance (n * n)) (k : Fin n) : Vector Distance (n * n) :=
  (List.finRange n).foldl (relaxRow k) cells

/-- The hop distances of a topology. -/
def compute {ε : Type} (t : Topology) : Except (Failure ε) DistanceTable := do
  let adjacent ← t.edges.foldlM addEdge (isolated t.size)
  return ⟨t.size, (List.finRange t.size).foldl relaxRound adjacent⟩

/-- The cell of the distance from `a` to `b`. -/
def get {ε : Type} (d : DistanceTable) (a b : NodeId) : Except (Failure ε) Distance :=
  let index := d.size * a.toNat + b.toNat
  if h : index < d.size * d.size then .ok (d.cells.get ⟨index, h⟩)
  else .error (.outOfBounds (d.size * d.size) index)

/-- The distance from `a` to `b`; what lies outside the table is unreachable. -/
def distance (d : DistanceTable) (a b : NodeId) : Distance :=
  match (d.get a b : Except (Failure Unit) Distance) with
  | .ok x => x
  | .error _ => Distance.unreachable

@[simp] theorem val_position (i j : Fin n) : (position i j).val = n * i + j := rfl

end DistanceTable

end Multipath
