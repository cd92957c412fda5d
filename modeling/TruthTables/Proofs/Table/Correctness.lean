import TruthTables.Proofs.Table.Outcome

/-!
# Correctness of tables

A table that is built from a line is the truth table of the formula that the line
writes.  What this asks for is told here without reference to how a table comes
about: which variables and columns there are, and that each value is the truth
value of the formula of its column under the values that the number of its row
spells.

## Main definitions

* `Names.Spells names i v` — `v` gives the variables the values that `i` spells.
* `Table.IsTruthTableOf t r` — `t` is the truth table of `r`.

## Main results

* `Formula.getElem?_row_table` — each value is the truth value of its column.
* `Formula.isTruthTableOf_table` — **the table of a formula that has been read is
  its truth table.**
-/

namespace TruthTables

/-- The values that the number `i` spells for some variables: the variable with
place `k`, counted from 0, is true exactly when the digit of `i` that is as many
places from the right as there are variables after it is 0. -/
def Names.Spells (names : Names) (i : Nat) (v : Char → Bool) : Prop :=
  ∀ (k : Nat) (c : Char), names.toList[k]? = some c →
    (v c = true ↔ i.testBit (names.size - 1 - k) = false)

/-- What the number spells is its valuation, and that on all variables. -/
theorem Names.spells_iff {names : Names} {i : Nat} {v : Char → Bool} :
    names.Spells i v ↔ ∀ c ∈ names, v c = names.valuation i c := by
  constructor
  · intro h c hc
    obtain ⟨k, hk⟩ := List.getElem?_of_mem (Names.mem_def.mp hc)
    have hv := h k c hk
    rw [Names.valuation_of_getElem? i hk]
    cases hbit : i.testBit (names.size - 1 - k) with
    | false => simpa [hbit] using hv
    | true => simpa [hbit] using hv
  · intro h k c hk
    have hc : c ∈ names := Names.mem_def.mpr (List.mem_of_getElem? hk)
    rw [h c hc, Names.valuation_of_getElem? i hk, Bool.not_eq_true']

namespace Table

/-- The table `t` is the truth table of the formula `r`, which is written by the
expression of `t`. -/
structure IsTruthTableOf (t : Table) (r : Formula) : Prop where
  /-- The variables are in strictly ascending order. -/
  vars_ascending : t.vars.toList.Pairwise (· < ·)
  /-- They are the letters of the expression. -/
  mem_vars : ∀ c, c ∈ t.vars.toList ↔ IsLetter c ∧ c ∈ t.expression
  /-- There is a variable. -/
  one_le_size : 1 ≤ t.vars.size
  /-- There are at most three of them. -/
  size_le_three : t.vars.size ≤ 3
  /-- There is a row for each choice of truth values. -/
  length_rows : t.rows.length = Nat.pow 2 t.vars.size
  /-- Each row has a value for each column. -/
  length_row : ∀ row ∈ t.rows, row.length = t.columns.length
  /-- A column is headed by the written form of its formula. -/
  headers_eq : t.headers = t.columns.map Formula.text
  /-- No two columns have the same header. -/
  nodup_headers : t.headers.Nodup
  /-- The variables are the first columns. -/
  take_columns : t.columns.take t.vars.size = t.vars.toList.map .atom
  /-- The formula itself is the last column. -/
  getLast?_columns : t.columns.getLast? = some r
  /-- There are no more columns than variables, and signs in the expression. -/
  length_columns_le : t.columns.length ≤ t.vars.size + t.expression.countP isOperatorGlyph
  /-- Each value is the truth value of the formula of its column. -/
  value : ∀ (i j : Nat) (row : List Bool) (f : Formula) (v : Char → Bool),
    t.rows[i]? = some row → t.columns[j]? = some f → t.vars.Spells i v →
      row[j]? = some (f.truth v)
  /-- Each row begins with the values of its assignment. -/
  take_row : t.rows.map (fun row => row.take t.vars.size)
    = t.assignments.map fun a => a.toList.map (·.2)

end Table

namespace Formula

/-! ### The rows of the table of a formula -/

section Rows

variable (expression : Text) (f : Formula)

theorem length_rows_table : (f.table expression).rows.length = Nat.pow 2 f.vars.size := by
  rw [table, List.length_map, List.length_range, Names.assignmentCount]

theorem getElem?_rows_table {i : Nat} {row : List Bool}
    (h : (f.table expression).rows[i]? = some row) :
    row = f.columns.map fun g => g.truth (f.vars.valuation i) := by
  rw [table, List.getElem?_map] at h
  obtain ⟨k, hk, hrow⟩ := Option.map_eq_some_iff.mp h
  obtain ⟨hi, rfl⟩ := List.getElem?_eq_some_iff.mp hk
  rw [List.getElem_range] at hrow
  exact hrow.symm

/-- **Each value is the truth value of its column**, under any values for the
variables that the number of the row spells. -/
theorem getElem?_row_table {i j : Nat} {row : List Bool} {g : Formula} {v : Char → Bool}
    (hrow : (f.table expression).rows[i]? = some row) (hg : f.columns[j]? = some g)
    (hv : f.vars.Spells i v) : row[j]? = some (g.truth v) := by
  -- all letters of the column are variables of the table
  have hagree : ∀ c ∈ g.letters, f.vars.valuation i c = v c := by
    intro c hc
    have hvar : c ∈ f.vars := mem_vars_of_mem_columns (List.mem_of_getElem? hg) hc
    exact (Names.spells_iff.mp hv c hvar).symm
  rw [getElem?_rows_table expression f hrow, List.getElem?_map, hg, Option.map_some,
    truth_congr hagree]

/-- Each row begins with the values of its assignment. -/
theorem take_rows_table : (f.table expression).rows.map (fun row => row.take f.vars.size)
    = f.vars.assignments.map fun a => a.toList.map (·.2) := by
  rw [table, Names.assignments, List.map_map, List.map_map]
  refine List.map_congr_left fun i _ => ?_
  show (f.columns.map fun g => g.truth (f.vars.valuation i)).take f.vars.size
    = (f.vars.assignment i).toList.map (·.2)
  rw [Names.map_snd_toList_assignment, ← List.map_take, take_columns, List.map_map]
  rfl

end Rows

/-! ### Tables of formulas that have been read -/

/-- **The table of a formula that has been read** is its truth table. -/
theorem isTruthTableOf_table {t : Text} {p : Parsed} (h : parse t = .ok p)
    (hsize : p.root.vars.size ≤ maxVariables) : (p.root.table t).IsTruthTableOf p.root where
  vars_ascending := p.root.vars.ascending
  mem_vars := fun c => mem_vars.trans (mem_letters_of_parse h)
  one_le_size := by
    have hne : p.root.vars.toList ≠ [] := by
      obtain ⟨c, hc⟩ := List.exists_mem_of_ne_nil _ p.root.letters_ne_nil
      exact List.ne_nil_of_mem (Names.mem_def.mp (mem_vars.mpr hc))
    exact List.length_pos_iff.mpr hne
  size_le_three := hsize
  length_rows := length_rows_table t p.root
  length_row := by
    intro row hrow
    obtain ⟨i, hi⟩ := List.getElem?_of_mem hrow
    rw [getElem?_rows_table t p.root hi]
    exact List.length_map _
  headers_eq := rfl
  nodup_headers := by
    obtain ⟨-, hprec, -, -⟩ := parse_eq_ok_iff.mp h
    exact nodup_map_text_columns hprec (isLettered_of_parse h)
  take_columns := p.root.take_columns
  getLast?_columns := p.root.getLast?_columns
  length_columns_le := by
    have hle := p.root.length_columns_le
    rw [operatorCount_of_parse h] at hle
    exact hle
  value := fun _ _ _ _ _ hrow hg hv => getElem?_row_table t p.root hrow hg hv
  take_row := take_rows_table t p.root

end Formula

/-- **A table built from a line is its truth table**: the one of the formula that
the trimmed line writes. -/
theorem buildTable_isTruthTable {line : Text} {table : Table} (h : buildTable line = .ok table) :
    table.expression = line.trim ∧
      ∃ p, parse line.trim = .ok p ∧ table.IsTruthTableOf p.root := by
  obtain ⟨p, hp, hsize, -, rfl⟩ := buildTable_eq_ok_iff.mp h
  exact ⟨rfl, p, hp, Formula.isTruthTableOf_table hp hsize⟩

/-- The table of an implication with three variables.  In the rows for the digits `010`, `101` and
`110`, each connective has an operand with another value than it has itself, on the left and on the
right. -/
theorem buildTable_isTruthTable_of_implication :
    ∃ table p, buildTable " B∨A → ~C∧A ".toList = .ok table ∧
      parse "B∨A → ~C∧A".toList = .ok p ∧ table.IsTruthTableOf p.root ∧
        table.headers = ["A", "B", "C", "B ∨ A", "~C", "~C ∧ A", "B ∨ A → ~C ∧ A"].map
          String.toList ∧
        table.rows[2]? = some [true, false, true, true, false, false, false] ∧
        table.rows[5]? = some [false, true, false, true, true, false, false] ∧
        table.rows[6]? = some [false, false, true, false, false, false, true] := by
  let line : Text := " B∨A → ~C∧A ".toList
  let f : Formula := .bin .implies (.bin .or (.atom 'B') (.atom 'A'))
    (.bin .and (.neg (.atom 'C')) (.atom 'A'))
  have hp : parse line.trim = .ok ⟨f, f.postorder⟩ := by
    rw [parse_eq_ok_iff_exists_scan]
    exact ⟨_, rfl, by rw [parseTokens_eq_read]; rfl⟩
  have h : buildTable line = .ok (f.table line.trim) :=
    buildTable_eq_ok_iff.mpr ⟨_, hp, by decide, by decide, rfl⟩
  obtain ⟨-, p, hp', htable⟩ := buildTable_isTruthTable h
  exact ⟨_, p, h, hp', htable, by decide, by decide, by decide, by decide⟩

end TruthTables
