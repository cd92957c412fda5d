import TruthTables.Proofs.Assignment.Numbers
import TruthTables.Proofs.Table.Correctness

/-!
# Values of two tables

Two tables can be compared value by value although neither their columns nor their rows
have the same numbers.  A value is found under a header and in a row; headers are
compared as texts, and rows by the truth values that they give to the variables.

So the number of a row is of no interest, only which rows belong together: for each
choice of truth values a table has exactly one row.

## Main definitions

* `Table.value? t i header` — the value in the row `i` of `t` under a header.
* `Table.SameRow ρ t u i j` — the row `j` of `u` gives the variable `ρ c` the value that
  the row `i` of `t` gives the variable `c`.

## Main results

* `Formula.value?_table` — **each value is a truth value**: of the formula with the header,
  under the values of the row.
* `Formula.sameRow_table_iff` — which rows of two tables belong together.
-/

namespace TruthTables

namespace Table

/-- The value in the row with the number `i`, in the column with a header. -/
def value? (t : Table) (i : Nat) (header : Text) : Option Bool :=
  t.rows[i]?.bind fun row => (t.headers.idxOf? header).bind fun j => row[j]?

/-- What the row `i` of the table `t` gives to a variable `c`, the row `j` of the table `u`
gives to `ρ c`. -/
def SameRow (ρ : Char → Char) (t u : Table) (i j : Nat) : Prop :=
  ∃ a b, t.assignments[i]? = some a ∧ u.assignments[j]? = some b ∧
    ∀ c ∈ t.vars, b.get? (ρ c) = a.get? c

end Table

namespace Formula

theorem getElem?_rows_table_of_lt (f : Formula) (expression : Text) {i : Nat}
    (hi : i < f.vars.assignmentCount) :
    (f.table expression).rows[i]? = some (f.columns.map fun g => g.truth (f.vars.valuation i)) := by
  rw [table, List.getElem?_map, List.getElem?_range hi]
  rfl

/-- The column with the written form of a formula as its header is that of the formula, and of
no other one. -/
theorem exists_idxOf?_text_eq {f g : Formula} (hprec : f.FollowsPrecedence)
    (hlettered : f.IsLettered) (hg : g ∈ f.columns) :
    ∃ j, (f.columns.map text).idxOf? g.text = some j ∧ f.columns[j]? = some g := by
  have hheader : g.text ∈ f.columns.map text := List.mem_map_of_mem hg
  obtain ⟨j, hj⟩ := Option.isSome_iff_exists.mp (List.isSome_idxOf?.mpr hheader)
  refine ⟨j, hj, ?_⟩
  obtain ⟨hlt, htext, -⟩ := List.idxOf?_eq_some_iff.mp hj
  rw [List.length_map] at hlt
  rw [List.getElem_map] at htext
  have hmem := mem_columns.mp (List.getElem_mem hlt)
  have hgmem := mem_columns.mp hg
  have heq : f.columns[j] = g :=
    eq_of_text_eq (followsPrecedence_of_mem_postorder hprec hmem)
      (followsPrecedence_of_mem_postorder hprec hgmem) (isLettered_of_mem_postorder hlettered hmem)
      (isLettered_of_mem_postorder hlettered hgmem) htext
  rw [List.getElem?_eq_getElem hlt, heq]

/-- **Each value is a truth value**: that of the formula with the header, under the
values that the number of the row spells. -/
theorem value?_table {f g : Formula} (hprec : f.FollowsPrecedence) (hlettered : f.IsLettered)
    (hg : g ∈ f.columns) {i : Nat} (hi : i < f.vars.assignmentCount) (expression : Text) :
    (f.table expression).value? i g.text = some (g.truth (f.vars.valuation i)) := by
  obtain ⟨j, hj, hcolumn⟩ := exists_idxOf?_text_eq hprec hlettered hg
  have hindex : (f.table expression).headers.idxOf? g.text = some j := hj
  simp only [Table.value?, f.getElem?_rows_table_of_lt expression hi, hindex, Option.bind_some,
    List.getElem?_map, hcolumn, Option.map_some]

/-- **Which rows of two tables belong together**: those whose numbers spell the same
values. -/
theorem sameRow_table_iff {ρ : Char → Char} {f g : Formula} {s t : Text} {i j : Nat}
    (hvars : ∀ c ∈ f.vars, ρ c ∈ g.vars) :
    (f.table s).SameRow ρ (g.table t) i j ↔
      i < f.vars.assignmentCount ∧ j < g.vars.assignmentCount ∧
        ∀ c ∈ f.vars, g.vars.valuation j (ρ c) = f.vars.valuation i c := by
  have hget : ∀ c ∈ f.vars, (g.vars.assignment j).get? (ρ c) = (f.vars.assignment i).get? c ↔
      g.vars.valuation j (ρ c) = f.vars.valuation i c := by
    intro c hc
    rw [Names.get?_assignment (hvars c hc), Names.get?_assignment hc, Option.some.injEq]
  constructor
  · rintro ⟨a, b, ha, hb, hab⟩
    obtain ⟨hi, rfl⟩ := Names.getElem?_assignments_eq_some_iff.mp ha
    obtain ⟨hj, rfl⟩ := Names.getElem?_assignments_eq_some_iff.mp hb
    exact ⟨hi, hj, fun c hc => (hget c hc).mp (hab c hc)⟩
  · rintro ⟨hi, hj, hab⟩
    exact ⟨_, _, Names.getElem?_assignments_eq_some_iff.mpr ⟨hi, rfl⟩,
      Names.getElem?_assignments_eq_some_iff.mpr ⟨hj, rfl⟩, fun c hc => (hget c hc).mpr (hab c hc)⟩

end Formula

end TruthTables
