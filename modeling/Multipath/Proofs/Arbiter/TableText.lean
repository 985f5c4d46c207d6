import Multipath.Proofs.Arbiter.Installed
import Multipath.Router.Forward

/-!
# The table of a node can be read back

The text of a multi-path policy is a line with the node and then one line per destination, which lists
the candidates in braces and with commas between them.  Everything can be told from it.

* `Ecmp.ofTable?` reads such a text, and what it reads is exactly what is written
  (`Ecmp.ofTable?_eq_some_iff`).  Each part has a reader of its own that is exact in the same way: a
  node, a list, the line of a destination, and the lines from some destination on.
* What holds the parts together never occurs inside of them: no digit is a comma, and no line
  contains a line break.  An empty list is not a list with one empty entry, because every number
  has a digit.

So the tables of two nodes are equal only if the nodes and all their candidates are
(`Ecmp.table_loses_nothing`).
-/

namespace Multipath

namespace Ecmp

variable {v : NodeId} {chars : List Char} {nodes : List NodeId} {rows : List (List NodeId)}
variable {lines : List (List Char)} {destination : ℕ} {c : Char}

/-! ### What is written -/

/-- The decimal digits of a node. -/
def nodeText (v : NodeId) : List Char :=
  Nat.toDigits 10 v.toNat

/-- The nodes of a list, with commas between them. -/
def listText (nodes : List NodeId) : List Char :=
  [','].intercalate (nodes.map nodeText)

/-- What stands in front of the candidates for a destination. -/
def opening (destination : ℕ) : List Char :=
  "  -> ".toList ++ (Nat.toDigits 10 destination ++ ": \x7b".toList)

/-- The line of a destination, without the line break. -/
def rowText (destination : ℕ) (nodes : List NodeId) : List Char :=
  opening destination ++ (listText nodes ++ ['\x7d'])

/-- The first line, without the line break. -/
def headText (v : NodeId) : List Char :=
  "node ".toList ++ nodeText v

/-- The lines of the destinations from `destination` on. -/
def rowTexts (destination : ℕ) (rows : List (List NodeId)) : List (List Char) :=
  (rows.zipIdx destination).map fun (nodes, i) => rowText i nodes

/-- The lines of a table.  Each of them ends with a line break, so what is behind the last line break
counts as one more line, which is empty. -/
def lineTexts (v : NodeId) (rows : List (List NodeId)) : List (List Char) :=
  headText v :: (rowTexts 0 rows ++ [[]])

/-! ### What is read -/

/-- The node with the given digits.  Other ways to write a number are not accepted. -/
def node? (chars : List Char) : Option NodeId :=
  let v := UInt32.ofNat (Nat.ofDigitChars 10 chars 0)
  if nodeText v = chars then some v else none

/-- The nodes of a list. -/
def list? (chars : List Char) : Option (List NodeId) :=
  if chars = [] then some [] else (chars.splitOn ',').mapM node?

/-- The candidates in the line of a destination. -/
def row? (destination : ℕ) (chars : List Char) : Option (List NodeId) := do
  list? (← (← chars.dropPrefix? (opening destination)).dropSuffix? ['\x7d'])

/-- The candidates in the lines of the destinations from `destination` on. -/
def rows? (destination : ℕ) : List (List Char) → Option (List (List NodeId))
  | [] => some []
  | chars :: lines => do return (← row? destination chars) :: (← rows? (destination + 1) lines)

/-- The node and its candidates in a table. -/
def ofTable? (s : String) : Option (NodeId × Array (List NodeId)) :=
  match s.toList.splitOn '\n' with
  | head :: lines => do
    let v ← node? (← head.dropPrefix? "node ".toList)
    let rows ← rows? 0 (← lines.dropSuffix? [[]])
    return (v, rows.toArray)
  | [] => none

/-! ### Separators -/

theorem notMem_toDigits (n : ℕ) (hc : c.isDigit = false) : c ∉ Nat.toDigits 10 n := by
  intro h
  have hdigit := Nat.isDigit_of_mem_toDigits (by decide) (by decide) h
  exact absurd (hc.symm.trans hdigit) (by decide)

theorem newline_notMem_listText (nodes : List NodeId) : '\n' ∉ listText nodes := by
  induction nodes with
  | nil => simp [listText]
  | cons v nodes ih =>
      have hv : '\n' ∉ nodeText v := notMem_toDigits _ rfl
      cases nodes with
      | nil => simpa [listText] using hv
      | cons w nodes =>
          rw [listText, List.map_cons, List.map_cons, List.intercalate_cons_cons]
          simp only [List.mem_append, List.mem_singleton, not_or]
          exact ⟨⟨hv, by decide⟩, ih⟩

theorem newline_notMem_rowText (destination : ℕ) (nodes : List NodeId) :
    '\n' ∉ rowText destination nodes := by
  have hdigits : '\n' ∉ Nat.toDigits 10 destination := notMem_toDigits _ rfl
  simp [rowText, opening, hdigits, newline_notMem_listText]

theorem newline_notMem_headText (v : NodeId) : '\n' ∉ headText v := by
  have hdigits : '\n' ∉ nodeText v := notMem_toDigits _ rfl
  simp [headText, hdigits]

/-- A text is split at each `c` into its parts if they make up the text and do not contain `c`. -/
theorem splitOn_eq_iff {parts : List (List Char)} (hne : parts ≠ [])
    (h : ∀ part ∈ parts, c ∉ part) : chars.splitOn c = parts ↔ chars = [c].intercalate parts := by
  constructor
  · rintro rfl
    exact (List.intercalate_splitOn c).symm
  · rintro rfl
    exact List.splitOn_intercalate c h hne

/-! ### Exact readers -/

theorem node?_eq_some_iff : node? chars = some v ↔ chars = nodeText v := by
  simp only [node?, Option.ite_none_right_eq_some, Option.some.injEq]
  constructor
  · rintro ⟨hchars, rfl⟩
    exact hchars.symm
  · rintro rfl
    have hv : UInt32.ofNat (Nat.ofDigitChars 10 (nodeText v) 0) = v := by
      rw [nodeText, Nat.ofDigitChars_ten_toDigits, UInt32.ofNat_toNat]
    exact ⟨congrArg nodeText hv, hv⟩

theorem listText_eq_nil_iff : listText nodes = [] ↔ nodes = [] := by
  cases nodes with
  | nil => simp [listText]
  | cons v nodes =>
      have hv : nodeText v ≠ [] := Nat.toDigits_ne_nil
      cases nodes <;> simp [listText, hv]

theorem list?_eq_some_iff : list? chars = some nodes ↔ chars = listText nodes := by
  by_cases hchars : chars = []
  · rw [list?, if_pos hchars, Option.some.injEq, hchars, eq_comm, eq_comm (a := []),
      listText_eq_nil_iff]
  · rw [list?, if_neg hchars, mapM_eq_some_iff fun _ _ => node?_eq_some_iff]
    rcases eq_or_ne nodes [] with rfl | hnodes
    · exact iff_of_false (List.splitOn_ne_nil _ _) hchars
    · refine splitOn_eq_iff (by simpa using hnodes) fun part hpart => ?_
      obtain ⟨v, -, rfl⟩ := List.mem_map.mp hpart
      exact notMem_toDigits _ rfl

theorem row?_eq_some_iff : row? destination chars = some nodes ↔
    chars = rowText destination nodes := by
  simp only [row?, Option.bind_eq_bind, Option.bind_eq_some_iff, List.dropPrefix?_eq_some_iff,
    List.dropSuffix?_eq_some_iff, beq_iff_eq, list?_eq_some_iff]
  constructor
  · rintro ⟨rest, ⟨_, rfl, rfl⟩, inner, ⟨_, rfl, rfl⟩, rfl⟩
    rfl
  · rintro rfl
    exact ⟨_, ⟨_, rfl, rfl⟩, _, ⟨_, rfl, rfl⟩, rfl⟩

theorem rows?_eq_some_iff : rows? destination lines = some rows ↔
    lines = rowTexts destination rows := by
  -- the number of the next destination grows along the lines
  induction lines generalizing destination rows with
  | nil => cases rows <;> simp [rows?, rowTexts]
  | cons chars lines ih =>
      simp only [rows?, Option.bind_eq_bind, Option.pure_def, Option.bind_eq_some_iff,
        row?_eq_some_iff, ih, Option.some.injEq]
      constructor
      · rintro ⟨nodes, rfl, rows, rfl, rfl⟩
        rfl
      · intro hrows
        cases rows with
        | nil => cases hrows
        | cons nodes rows =>
            obtain ⟨rfl, rfl⟩ := List.cons.inj hrows
            exact ⟨nodes, rfl, rows, rfl, rfl⟩

/-! ### The table -/

theorem toList_toString (v : NodeId) : (toString v).toList = nodeText v :=
  Nat.toList_repr

theorem toList_line (destination : ℕ) (nodes : List NodeId) :
    (line destination nodes).toList = rowText destination nodes ++ ['\n'] := by
  have hopening : (s!"  -> {destination}: \x7b").toList = opening destination := by
    have hdigits : (toString destination).toList = Nat.toDigits 10 destination := Nat.toList_repr
    rw [String.toList_append, String.toList_append, hdigits, List.append_assoc]
    rfl
  have hnodes : (nodes.map toString).map String.toList = nodes.map nodeText := by
    rw [List.map_map]
    exact List.map_congr_left fun v _ => toList_toString v
  rw [line, String.toList_append, String.toList_append, String.toList_intercalate, hnodes, hopening]
  simp [rowText, listText]

theorem toList_head (v : NodeId) : (s!"node {v}\n").toList = headText v ++ ['\n'] := by
  rw [String.toList_append, String.toList_append, toList_toString]
  rfl

/-- Line breaks behind all parts are line breaks between them, with nothing behind the last. -/
theorem flatMap_concat_eq_intercalate (parts : List (List Char)) :
    parts.flatMap (· ++ [c]) = [c].intercalate (parts ++ [[]]) := by
  induction parts with
  | nil => simp
  | cons part parts ih =>
      rw [List.flatMap_cons, ih, List.cons_append, List.intercalate_cons_of_ne_nil (by simp)]

theorem toList_table (p : Ecmp) (v : NodeId) :
    (p.table v).toList = ['\n'].intercalate (lineTexts v p.candidates.toList) := by
  rw [lineTexts, ← List.cons_append, ← flatMap_concat_eq_intercalate, table, String.toList_join,
    List.flatMap_cons, List.flatMap_cons, rowTexts, List.flatMap_map, List.flatMap_map, toList_head]
  simp only [toList_line]

theorem newline_notMem_of_mem_lineTexts {part : List Char} (h : part ∈ lineTexts v rows) :
    '\n' ∉ part := by
  rcases List.mem_cons.mp h with rfl | h
  · exact newline_notMem_headText v
  · rcases List.mem_append.mp h with h | h
    · obtain ⟨_, -, rfl⟩ := List.mem_map.mp h
      exact newline_notMem_rowText _ _
    · rw [List.mem_singleton.mp h]
      exact List.not_mem_nil

theorem ofTable?_eq_some_iff_lines {s : String} {candidates : Array (List NodeId)} :
    ofTable? s = some (v, candidates) ↔ s.toList.splitOn '\n' = lineTexts v candidates.toList := by
  rw [ofTable?, lineTexts]
  cases s.toList.splitOn '\n' with
  | nil => simp
  | cons head lines =>
      simp only [Option.bind_eq_bind, Option.pure_def, Option.bind_eq_some_iff, beq_iff_eq,
        List.dropPrefix?_eq_some_iff, List.dropSuffix?_eq_some_iff, node?_eq_some_iff,
        rows?_eq_some_iff, Option.some.injEq, Prod.mk.injEq, List.cons.injEq]
      constructor
      · rintro ⟨_, ⟨_, rfl, rfl⟩, _, rfl, _, ⟨_, rfl, rfl⟩, rows, rfl, rfl, rfl⟩
        exact ⟨rfl, rfl⟩
      · rintro ⟨rfl, rfl⟩
        exact ⟨_, ⟨_, rfl, rfl⟩, _, rfl, _, ⟨_, rfl, rfl⟩, _, rfl, rfl, rfl⟩

/-- The head comes first, then the destinations in increasing order. -/
theorem splitOn_eq_lineTexts_iff {s : String} (p : Ecmp) :
    s.toList.splitOn '\n' = lineTexts v p.candidates.toList ↔ s = p.table v := by
  have hne : lineTexts v p.candidates.toList ≠ [] := List.cons_ne_nil _ _
  rw [splitOn_eq_iff hne fun _ => newline_notMem_of_mem_lineTexts, ← toList_table,
    String.toList_inj]

/-- Exactly the table of a node is read as that node with its candidates. -/
theorem ofTable?_eq_some_iff {s : String} (p : Ecmp) :
    ofTable? s = some (v, p.candidates) ↔ s = p.table v :=
  ofTable?_eq_some_iff_lines.trans (splitOn_eq_lineTexts_iff p)

/-! ### Installed arbiters -/

/-- An installation has made the arbiter `a` with the row `row` of the table of candidates. -/
def InstalledRow (a : Arbiter Ecmp) (row : Array (List NodeId)) : Prop :=
  ∃ t plan params arbiters table, (installEcmp t plan params).value = .ok arbiters ∧
    (CandidateTable.compute t params).value = .ok table ∧
    ∃ i : ℕ, arbiters[i]? = some a ∧ table.rows[i]? = some row

theorem InstalledRow.candidates_eq {a : Arbiter Ecmp} {row : Array (List NodeId)}
    (h : InstalledRow a row) : a.policy.candidates = row := by
  obtain ⟨t, plan, params, arbiters, table, hinstall, htable, i, ha, hrow⟩ := h
  rw [installEcmp, Logged.value_bind, htable] at hinstall
  obtain ⟨-, hat⟩ := getElem?_of_installRows hinstall
  obtain ⟨links, -, ha'⟩ := hat i row (by simpa using hrow)
  obtain rfl := Option.some.inj (ha.symm.trans ha')
  rfl

theorem table_eq_iff (p q : Ecmp) (v w : NodeId) :
    p.table v = q.table w ↔ v = w ∧ p.candidates = q.candidates := by
  rw [← ofTable?_eq_some_iff q, (ofTable?_eq_some_iff p).mpr rfl, Option.some.injEq,
    Prod.mk.injEq]

/-- What a router prints is the table of its arbiter. -/
theorem table_setArbiter_eq_iff (r s : Router Ecmp) (a b : Arbiter Ecmp) :
    (r.setArbiter a).table = (s.setArbiter b).table ↔
      a.node = b.node ∧ a.policy.candidates = b.policy.candidates := by
  rw [← table_eq_iff]
  show Except.ok (a.policy.table a.node) = Except.ok (b.policy.table b.node) ↔ _
  rw [Except.ok.injEq]

/-- **The table of a node loses nothing.** Two tables are equal exactly if the nodes are and if both
list the same candidates in the same order for every destination, however many destinations there are
and whatever their candidates.  Exactly the table itself is read back as its node and its
candidates; the first of its lines has the node, the others the destinations in increasing order.
The same holds of what routers print.  If both arbiters have been installed at equal nodes, then they
print equal tables exactly if their rows of the table of candidates are equal. -/
theorem table_loses_nothing :
    (∀ (p q : Ecmp) v w, p.table v = q.table w ↔ v = w ∧ p.candidates = q.candidates) ∧
    (∀ (p : Ecmp) v s, ofTable? s = some (v, p.candidates) ↔ s = p.table v) ∧
    (∀ (p : Ecmp) v, (p.table v).toList.splitOn '\n' =
      headText v :: (rowTexts 0 p.candidates.toList ++ [[]])) ∧
    (∀ (r s : Router Ecmp) (a b : Arbiter Ecmp), (r.setArbiter a).table = (s.setArbiter b).table ↔
      a.node = b.node ∧ a.policy.candidates = b.policy.candidates) ∧
    ∀ a b row row', InstalledRow a row → InstalledRow b row' → a.node = b.node →
      ∀ r s : Router Ecmp, (r.setArbiter a).table = (s.setArbiter b).table ↔ row = row' := by
  refine ⟨table_eq_iff, fun p v s => ofTable?_eq_some_iff p,
    fun p v => (splitOn_eq_lineTexts_iff p).mpr rfl, table_setArbiter_eq_iff, ?_⟩
  intro a b row row' ha hb hnode r s
  rw [table_setArbiter_eq_iff, and_iff_right hnode, ha.candidates_eq, hb.candidates_eq]

/-- The table of node 0 shows if there is a link from node 0 to node 1. -/
theorem table_shows_link :
    ∃ a b, InstalledRow a #[[], [1]] ∧ InstalledRow b #[[], []] ∧ a.node = b.node ∧
      (Router.empty.setArbiter a).table ≠ (Router.empty.setArbiter b).table := by
  obtain ⟨t, arbiters, c, a, -, hinstall, hc, ha, hrow, hnode⟩ : ∃ t arbiters c a,
      Topology.build 2 [(0, 1)] = .ok t ∧
      (installEcmp t ⟨#[(1, 1)], #[]⟩ {}).value = .ok arbiters ∧
      (CandidateTable.compute t {}).value = .ok c ∧
      arbiters[0]? = some a ∧ c.rows[0]? = some #[[], [1]] ∧ a.node = 0 :=
    ⟨_, _, _, _, rfl, rfl, rfl, rfl, rfl, rfl⟩
  obtain ⟨t', arbiters', c', b, -, hinstall', hc', hb, hrow', hnode'⟩ : ∃ t arbiters c a,
      Topology.build 2 [] = .ok t ∧
      (installEcmp t ⟨#[], #[]⟩ {}).value = .ok arbiters ∧
      (CandidateTable.compute t {}).value = .ok c ∧
      arbiters[0]? = some a ∧ c.rows[0]? = some #[[], []] ∧ a.node = 0 :=
    ⟨_, _, _, _, rfl, rfl, rfl, rfl, rfl, rfl⟩
  have hlinked : InstalledRow a #[[], [1]] := ⟨t, _, _, _, c, hinstall, hc, 0, ha, hrow⟩
  have hapart : InstalledRow b #[[], []] := ⟨t', _, _, _, c', hinstall', hc', 0, hb, hrow'⟩
  refine ⟨a, b, hlinked, hapart, hnode.trans hnode'.symm, ?_⟩
  obtain ⟨-, -, -, -, hrows⟩ := table_loses_nothing
  rw [ne_eq, hrows a b _ _ hlinked hapart (hnode.trans hnode'.symm)]
  decide

end Ecmp

end Multipath
