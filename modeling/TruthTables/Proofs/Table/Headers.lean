import TruthTables.Proofs.Table.Subtables

/-!
# Looking a column up by its header

A column is looked up by a text, which is compared with the headers and not read.  That text
may be anything.  But whether there is a column can be told by reading it: a text that is the
written form of a sub-formula is read as this sub-formula, and conversely each header is the
written form of a sub-formula.

So two ways to ask for the values of a sub-formula agree: to look for its column, and to read
the header and evaluate what is read under each assignment.  Only the spelling matters for the
lookup alone.  A text with other white space is read as the same formula, but is no header.

## Main definitions

* `Table.FindsUnder t f header` — what is found in the table `t` of `f` under a header.

## Main results

* `Formula.column?_table` — the column of a sub-formula.
* `buildTable_findsUnder` — **looking up agrees with reading and evaluating.**
-/

namespace TruthTables

namespace Table

/-- What is found in the table `t` of the formula `f` under a header. -/
structure FindsUnder (t : Table) (f : Formula) (header : Text) : Prop where
  /-- There is a column exactly if the header is read as a formula that occurs in `f`, and is the
  written form of it. -/
  isSome_iff : (t.column? header).isSome ↔
    ∃ p, parse header = .ok p ∧ p.root.OccursIn f ∧ p.root.text = header
  /-- The column has a value for each row: that of the formula under the assignment of the row. -/
  values : ∀ p values, parse header = .ok p → t.column? header = some values →
    values.length = t.rows.length ∧
      ∀ (k : Nat) (a : Assignment), t.assignments[k]? = some a →
        ∃ b, values[k]? = some b ∧ p.root.eval a = .ok b
  /-- At most one column has the header. -/
  unique : ∀ i j : Nat, t.headers[i]? = some header → t.headers[j]? = some header → i = j
  /-- A formula is found in no other spelling than its written form. -/
  spelling : ∀ p, parse header = .ok p → p.root.text ≠ header → t.column? header = none

theorem isSome_column?_iff {t : Table} {header : Text} :
    (t.column? header).isSome ↔ header ∈ t.headers := by
  rw [column?, Option.isSome_map, List.isSome_idxOf?]

end Table

namespace Formula

/-- The value of a formula under the assignment with a given number. -/
theorem eval_assignment {names : Names} {f : Formula} (h : ∀ c ∈ f.letters, c ∈ names) (i : Nat) :
    f.eval (names.assignment i) = .ok (f.truth (names.valuation i)) :=
  eval_eq_truth fun c hc => Names.get?_assignment (h c hc) i

section Table

variable {f : Formula} (hprec : f.FollowsPrecedence) (hlettered : f.IsLettered) (expression : Text)

include hprec hlettered

/-- **The column of a sub-formula** has the truth values of the sub-formula. -/
theorem column?_table {g : Formula} (hg : g ∈ f.columns) :
    (f.table expression).column? g.text =
      some ((List.range f.vars.assignmentCount).map fun i => g.truth (f.vars.valuation i)) := by
  obtain ⟨j, hj, hcolumn⟩ := exists_idxOf?_text_eq hprec hlettered hg
  have hindex : (f.table expression).headers.idxOf? g.text = some j := hj
  rw [Table.column?, hindex, Option.map_some, Table.columnAt, table, List.map_map]
  refine congrArg some (List.map_congr_left fun i _ => ?_)
  rw [Function.comp_apply, List.getD_eq_getElem?_getD, List.getElem?_map, hcolumn]
  rfl

/-- **There is a column exactly for the written forms of what occurs in the formula**, and these
are read as what they are the written form of. -/
theorem isSome_column?_table_iff {header : Text} :
    ((f.table expression).column? header).isSome ↔
      ∃ p, parse header = .ok p ∧ p.root.OccursIn f ∧ p.root.text = header := by
  rw [Table.isSome_column?_iff, Table.headers, List.mem_map]
  constructor
  · rintro ⟨g, hg, rfl⟩
    have hmem := mem_columns.mp hg
    exact ⟨_, parse_text (followsPrecedence_of_mem_postorder hprec hmem)
      (isLettered_of_mem_postorder hlettered hmem), mem_postorder_iff_occursIn.mp hmem, rfl⟩
  · rintro ⟨p, -, hoccurs, htext⟩
    exact ⟨p.root, mem_columns.mpr (mem_postorder_iff_occursIn.mpr hoccurs), htext⟩

/-- What is found in the table of a formula. -/
theorem findsUnder_table (header : Text) : (f.table expression).FindsUnder f header where
  isSome_iff := isSome_column?_table_iff hprec hlettered expression
  values := by
    intro p values hp hvalues
    have hsome := Option.isSome_iff_exists.mpr ⟨values, hvalues⟩
    obtain ⟨q, hq, hoccurs, rfl⟩ := (isSome_column?_table_iff hprec hlettered expression).mp hsome
    obtain rfl := Except.ok.inj (hp.symm.trans hq)
    have hcolumn := mem_columns.mpr (mem_postorder_iff_occursIn.mpr hoccurs)
    obtain rfl := Option.some.inj (hvalues.symm.trans (column?_table hprec hlettered _ hcolumn))
    refine ⟨?_, fun k a ha => ?_⟩
    · rw [List.length_map, List.length_range, length_rows_table]
      rfl
    · obtain ⟨hk, rfl⟩ := Names.getElem?_assignments_eq_some_iff.mp ha
      change k < f.vars.assignmentCount at hk
      refine ⟨p.root.truth (f.vars.valuation k), ?_, ?_⟩
      · rw [List.getElem?_map, List.getElem?_range hk]
        rfl
      · exact eval_assignment (fun c hc => mem_vars_of_mem_columns hcolumn hc) k
  unique := by
    intro i j hi hj
    obtain ⟨hlt, -⟩ := List.getElem?_eq_some_iff.mp hi
    exact (List.getElem?_inj hlt (nodup_map_text_columns hprec hlettered)).mp (hi.trans hj.symm)
  spelling := by
    intro p hp hne
    refine Option.not_isSome_iff_eq_none.mp fun hsome => ?_
    obtain ⟨q, hq, -, htext⟩ := (isSome_column?_table_iff hprec hlettered expression).mp hsome
    obtain rfl := Except.ok.inj (hp.symm.trans hq)
    exact hne htext

end Table

end Formula

/-- **Looking a column up agrees with reading its header**: there is a column for a text exactly
if the text is the written form of a sub-formula, and its values are those of this sub-formula. -/
theorem buildTable_findsUnder {line : Text} {table : Table} (h : buildTable line = .ok table) :
    ∃ p, parse line.trim = .ok p ∧ ∀ header, table.FindsUnder p.root header := by
  obtain ⟨p, hp, -, -, rfl⟩ := buildTable_eq_ok_iff.mp h
  obtain ⟨-, hprec, -, -⟩ := parse_eq_ok_iff.mp hp
  exact ⟨p, hp, Formula.findsUnder_table hprec (isLettered_of_parse hp) line.trim⟩

/-- The conjunction in an implication is found under its written form, and only in this
spelling; the implication of its second operand, which is read as well, does not occur. -/
theorem buildTable_findsUnder_of_conjunction :
    ∃ table, buildTable " B∧A → ~C ".toList = .ok table ∧
      table.column? "B ∧ A".toList = some [true, true, false, false, false, false, false, false] ∧
      table.column? "B∧A".toList = none ∧ table.column? "A → ~C".toList = none := by
  let line : Text := " B∧A → ~C ".toList
  let g : Formula := .bin .and (.atom 'B') (.atom 'A')
  let k : Formula := .bin .implies (.atom 'A') (.neg (.atom 'C'))
  let f : Formula := .bin .implies g (.neg (.atom 'C'))
  have hf : parse line.trim = .ok ⟨f, f.postorder⟩ := parse_eq_ok_of_read rfl rfl
  have hg : parse "B∧A".toList = .ok ⟨g, g.postorder⟩ := parse_eq_ok_of_read rfl rfl
  have hk : parse "A → ~C".toList = .ok ⟨k, k.postorder⟩ := parse_eq_ok_of_read rfl rfl
  have h : buildTable line = .ok (f.table line.trim) :=
    buildTable_eq_ok_iff.mpr ⟨_, hf, by decide, by decide, rfl⟩
  obtain ⟨p, hp, hfinds⟩ := buildTable_findsUnder h
  obtain rfl := Except.ok.inj (hf.symm.trans hp)
  refine ⟨_, h, by decide +kernel, (hfinds _).spelling _ hg (by decide), ?_⟩
  refine Option.not_isSome_iff_eq_none.mp fun hsome => ?_
  obtain ⟨q, hq, hoccurs, -⟩ := (hfinds _).isSome_iff.mp hsome
  obtain rfl := Except.ok.inj (hk.symm.trans hq)
  exact absurd (Formula.mem_postorder_iff_occursIn.mpr hoccurs) (by decide)

end TruthTables
