import TruthTables.Proofs.Table.Values

/-!
# The tables of sub-formulas

Each header of a table is itself a line that has a table: it is the written form of a
sub-formula, reading it gives this sub-formula back, and a part of a formula exceeds
no limit that the whole keeps to.  The table of the header is part of the table that
the header was taken from.  It has fewer variables perhaps, and so fewer rows, but
each of its columns is a column of the large table, and where two rows give the same
values to the variables of the small table, the columns have the same values.

## Main definitions

* `Table.IsPartOf sub t` — the table `sub` agrees with what `t` says of its columns.

## Main results

* `Formula.buildTable_text` — the written form of a formula has the table of the formula.
* `Formula.isPartOf_table` — the table of a sub-formula is part of that of the formula.
* `buildTable_header` — **each header of a table has a table, which is part of it.**
-/

namespace TruthTables

/-- The columns of the table `sub` are columns of the table `t` and have the same values
there, in those rows that belong to the same values of the variables of `sub`. -/
structure Table.IsPartOf (sub t : Table) : Prop where
  /-- Its variables are variables of `t`. -/
  vars : ∀ c ∈ sub.vars, c ∈ t.vars
  /-- Its columns are columns of `t`. -/
  headers : ∀ header ∈ sub.headers, header ∈ t.headers
  /-- Each row of `t` belongs to the same values as exactly one row of `sub`. -/
  row : ∀ k < t.rows.length, ∃ k', sub.SameRow id t k' k ∧ ∀ i, sub.SameRow id t i k → i = k'
  /-- In two such rows the values are the same. -/
  value : ∀ k k', sub.SameRow id t k' k → ∀ header ∈ sub.headers,
    ∃ b, sub.value? k' header = some b ∧ t.value? k header = some b

namespace Formula

/-! ### Sub-formulas of sub-formulas -/

section Part

variable {f g : Formula} (hg : g ∈ f.postorder)

include hg

theorem postorder_subset_of_mem : g.postorder ⊆ f.postorder := by
  refine forall_mem_postorder (P := fun g => g.postorder ⊆ f.postorder) ?_ ?_ f
    (fun _ h => h) g hg
  · intro g h
    exact fun _ hx => h (List.mem_append_left _ hx)
  · intro op l r h
    exact ⟨fun _ hx => h (List.mem_append_left _ (List.mem_append_left _ hx)),
      fun _ hx => h (List.mem_append_left _ (List.mem_append_right _ hx))⟩

theorem operatorCount_le_of_mem_postorder : g.operatorCount ≤ f.operatorCount := by
  refine forall_mem_postorder (P := fun g => g.operatorCount ≤ f.operatorCount) ?_ ?_ f
    (Nat.le_refl _) g hg
  · intro g h
    rw [operatorCount_neg] at h
    omega
  · intro op l r h
    rw [operatorCount_bin] at h
    omega

theorem vars_subset_of_mem_postorder : ∀ c ∈ g.vars, c ∈ f.vars := by
  intro c hc
  exact mem_vars.mpr (letters_subset_of_mem_postorder hg (mem_vars.mp hc))

theorem columns_subset_of_mem_postorder : g.columns ⊆ f.columns := by
  intro h hh
  exact mem_columns.mpr (postorder_subset_of_mem hg (mem_columns.mp hh))

end Part

/-! ### The table of a written form -/

/-- The written form of a formula is read as the formula. -/
theorem parse_text {f : Formula} (hprec : f.FollowsPrecedence) (hlettered : f.IsLettered) :
    parse f.text = .ok ⟨f, f.postorder⟩ :=
  parse_eq_ok_iff.mpr ⟨isForeign_eq_false_of_mem_text hlettered, hprec,
    (filterMap_symbolOf?_text hlettered).symm, rfl⟩

/-- **The written form of a formula has the table of the formula**, if the formula
keeps to the limits. -/
theorem buildTable_text {f : Formula} (hprec : f.FollowsPrecedence) (hlettered : f.IsLettered)
    (hsize : f.vars.size ≤ maxVariables) (hcount : f.operatorCount ≤ maxOperators) :
    buildTable f.text = .ok (f.table f.text.trim) := by
  have hp : parse f.text.trim = .ok ⟨f, f.postorder⟩ := by
    rw [trim_text hlettered]
    exact parse_text hprec hlettered
  exact buildTable_eq_ok_iff.mpr ⟨_, hp, hsize, hcount, rfl⟩

/-- **The table of a sub-formula is part of that of the formula.** -/
theorem isPartOf_table {f g : Formula} (hprec : f.FollowsPrecedence) (hlettered : f.IsLettered)
    (hg : g ∈ f.postorder) (s t : Text) : (g.table s).IsPartOf (f.table t) := by
  have hvars := vars_subset_of_mem_postorder hg
  have hcolumns := columns_subset_of_mem_postorder hg
  refine ⟨hvars, ?_, fun k hk => ?_, fun k k' hrows header hheader => ?_⟩
  · intro header hheader
    obtain ⟨h, hh, rfl⟩ := List.mem_map.mp hheader
    exact List.mem_map_of_mem (hcolumns hh)
  · rw [length_rows_table] at hk
    obtain ⟨k', hk', hvalues⟩ := g.vars.exists_valuation_eq (f.vars.valuation k)
    refine ⟨k', (sameRow_table_iff hvars).mpr ⟨hk', hk, fun c hc => (hvalues c hc).symm⟩, ?_⟩
    intro i hi
    obtain ⟨hi, -, hsame⟩ := (sameRow_table_iff hvars).mp hi
    exact Names.eq_of_valuation_eq hi hk' fun c hc =>
      (hsame c hc).symm.trans (hvalues c hc).symm
  · obtain ⟨h, hh, rfl⟩ := List.mem_map.mp hheader
    obtain ⟨hk', hk, hsame⟩ := (sameRow_table_iff hvars).mp hrows
    -- the variables of the column are among those of `g`, and there both rows agree
    have htruth : h.truth (f.vars.valuation k) = h.truth (g.vars.valuation k') :=
      truth_congr fun c hc => hsame c (mem_vars_of_mem_columns hh hc)
    refine ⟨h.truth (g.vars.valuation k'), ?_, ?_⟩
    · exact value?_table (followsPrecedence_of_mem_postorder hprec hg)
        (isLettered_of_mem_postorder hlettered hg) hh hk' s
    · rw [value?_table hprec hlettered (hcolumns hh) hk t, htruth]

end Formula

/-- **Each header of a table has a table, which is part of it.**  Its last column is the
one with the header. -/
theorem buildTable_header {line : Text} {table : Table} (h : buildTable line = .ok table)
    {header : Text} (hheader : header ∈ table.headers) :
    ∃ sub, buildTable header = .ok sub ∧ sub.IsPartOf table ∧
      ∀ k k', sub.SameRow id table k' k → ∃ row b, sub.rows[k']? = some row ∧
        row.getLast? = some b ∧ table.value? k header = some b := by
  obtain ⟨p, hp, hsize, hcount, rfl⟩ := buildTable_eq_ok_iff.mp h
  obtain ⟨-, hprec, -, -⟩ := parse_eq_ok_iff.mp hp
  have hlettered := isLettered_of_parse hp
  obtain ⟨g, hcolumn, rfl⟩ := List.mem_map.mp hheader
  have hg := Formula.mem_columns.mp hcolumn
  have hvars := Formula.vars_subset_of_mem_postorder hg
  have hsub := Formula.buildTable_text (Formula.followsPrecedence_of_mem_postorder hprec hg)
    (Formula.isLettered_of_mem_postorder hlettered hg)
    (Nat.le_trans (Names.size_le_of_subset hvars) hsize)
    (Nat.le_trans (Formula.operatorCount_le_of_mem_postorder hg) hcount)
  refine ⟨_, hsub, Formula.isPartOf_table hprec hlettered hg _ _, fun k k' hrows => ?_⟩
  obtain ⟨hk', hk, hsame⟩ := (Formula.sameRow_table_iff hvars).mp hrows
  have htruth : g.truth (p.root.vars.valuation k) = g.truth (g.vars.valuation k') :=
    Formula.truth_congr fun c hc => hsame c (Formula.mem_vars.mpr hc)
  refine ⟨g.columns.map fun h => h.truth (g.vars.valuation k'), g.truth (g.vars.valuation k'),
    g.getElem?_rows_table_of_lt _ hk', ?_, ?_⟩
  · rw [List.getLast?_map, g.getLast?_columns]
    rfl
  · rw [Formula.value?_table hprec hlettered hcolumn hk, htruth]

/-- The table of the conjunction in an implication has four rows of its own; to the sixth
row of the large table, where only `B` is true, belongs its third one. -/
theorem buildTable_header_of_conjunction :
    let g : Formula := .bin .and (.atom 'B') (.atom 'A')
    ∃ table sub, buildTable " B∧A → ~C ".toList = .ok table ∧ g.text ∈ table.headers ∧
      buildTable g.text = .ok sub ∧ sub.SameRow id table 2 5 ∧
      ∃ row, sub.rows[2]? = some row ∧ row.getLast? = some false ∧
        table.value? 5 g.text = some false := by
  intro g
  let line : Text := " B∧A → ~C ".toList
  let f : Formula := .bin .implies g (.neg (.atom 'C'))
  have hp : parse line.trim = .ok ⟨f, f.postorder⟩ := by
    rw [parse_eq_ok_iff_exists_scan]
    exact ⟨_, rfl, by rw [parseTokens_eq_read]; rfl⟩
  have h : buildTable line = .ok (f.table line.trim) :=
    buildTable_eq_ok_iff.mpr ⟨_, hp, by decide, by decide, rfl⟩
  have hheader : g.text ∈ (f.table line.trim).headers := by decide
  obtain ⟨sub, hsub, -, hlast⟩ := buildTable_header h hheader
  -- which table it is
  have hcases : ∀ c ∈ g.letters, c = 'B' ∨ c = 'A' := fun c hc => by simpa [g] using hc
  have hlettered : g.IsLettered := fun c hc => by
    rcases hcases c hc with rfl | rfl <;> decide
  have htable : buildTable g.text = .ok (g.table g.text.trim) :=
    Formula.buildTable_text (by decide) hlettered (by decide) (by decide)
  obtain rfl := Except.ok.inj (htable.symm.trans hsub)
  have hvalues : ∀ c ∈ g.vars, f.vars.valuation 5 c = g.vars.valuation 2 c := fun c hc => by
    rcases hcases c (Formula.mem_vars.mp hc) with rfl | rfl <;> decide
  have hrows : (g.table g.text.trim).SameRow id (f.table line.trim) 2 5 :=
    (Formula.sameRow_table_iff (Formula.vars_subset_of_mem_postorder (by decide))).mpr
      ⟨by decide, by decide, hvalues⟩
  obtain ⟨row, b, hrow, hrowlast, hvalue⟩ := hlast 5 2 hrows
  have hb : (f.table line.trim).value? 5 g.text = some false := by decide
  obtain rfl := Option.some.inj (hvalue.symm.trans hb)
  exact ⟨_, _, h, hheader, hsub, hrows, row, hrow, hrowlast, hb⟩

end TruthTables
