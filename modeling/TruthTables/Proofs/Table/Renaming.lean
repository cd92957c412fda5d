import Mathlib.Logic.Function.Basic
import TruthTables.Proofs.Table.Marks
import TruthTables.Proofs.Table.Subtables

/-!
# Tables with other letters

Which letters a line uses makes no difference to its table.  With the letters exchanged,
the line has a table if it had one, and else the same error, with its variable exchanged
as well.

The table itself is not the same one with other headers.  Variables stand in alphabetical
order, so an exchange of letters can permute their columns, and with them the digits that
a row number has for them: the rows are permuted too.  But the other columns stay in
order, and each row has its like, the one that gives to the new letters what the old ones
had; there the columns have the same values.  Only if the exchange keeps the variables in
order, columns and rows stay where they are.

## Main definitions

* `Table.IsRenaming p t u` — the table `u` is the table `t` with the letters exchanged.

## Main results

* `Formula.columns_rename_perm`, `Formula.filter_isCompound_columns_rename` — what becomes
  of the columns.
* `Formula.existsUnique_sameRow_rename` — each row has its like.
* `Formula.isRenaming_table` — the table of a formula with other letters.
* `buildTable_map` — **tables do not depend on which letters are used.**
-/

namespace TruthTables

/-- The table `u` is the table `t` with the letters exchanged. -/
structure Table.IsRenaming (p : Renaming) (t u : Table) : Prop where
  /-- The line has the letters exchanged. -/
  expression : u.expression = t.expression.map p
  /-- The columns are the old ones with the letters exchanged, in some order. -/
  columns : u.columns.Perm (t.columns.map (Formula.rename p))
  /-- Those that are no variables are in the same order. -/
  compound : u.columns.filter Formula.isCompound =
    (t.columns.filter Formula.isCompound).map (Formula.rename p)
  /-- For each row of `t` there is one row of `u` that gives to the new letters what the
  old ones have, and only one. -/
  row : ∀ i < t.rows.length, ∃ j, t.SameRow p u i j ∧ ∀ k, t.SameRow p u i k → k = j
  /-- In two such rows, corresponding columns have the same value. -/
  value : ∀ i j, t.SameRow p u i j → ∀ g ∈ t.columns,
    ∃ b, t.value? i g.text = some b ∧ u.value? j (g.rename p).text = some b
  /-- If the variables remain in order, the headers and the rows do as well. -/
  ordered : (∀ c ∈ t.vars, ∀ d ∈ t.vars, c < d → p c < p d) →
    u.headers = t.headers.map (List.map p) ∧ u.rows = t.rows

namespace Formula

variable (p : Renaming) (f : Formula)

/-! ### Variables -/

theorem vars_rename_perm : (f.rename p).vars.toList.Perm (f.vars.toList.map p) := by
  rw [vars, letters_rename]
  exact Names.perm_ofList_map p.injective f.letters

theorem mem_vars_rename {c : Char} : c ∈ (f.rename p).vars ↔ ∃ d ∈ f.vars, p d = c := by
  rw [Names.mem_def, (vars_rename_perm p f).mem_iff, List.mem_map]
  rfl

/-- Variables that remain in order are in the same places. -/
theorem vars_rename_of_ordered (h : ∀ c ∈ f.vars, ∀ d ∈ f.vars, c < d → p c < p d) :
    (f.rename p).vars.toList = f.vars.toList.map p := by
  have hsorted : (f.vars.toList.map p).Pairwise (· < ·) :=
    List.pairwise_map.mpr (f.vars.ascending.imp_of_mem fun {c d} hc hd hlt => h c hc d hd hlt)
  exact List.Perm.eq_of_pairwise (fun _ _ _ _ hlt hgt => absurd hgt (Char.lt_asymm hlt))
    (f.rename p).vars.ascending hsorted (vars_rename_perm p f)

/-! ### Columns -/

/-- **The compound columns** are the compound sub-formulas. -/
theorem filter_isCompound_columns :
    f.columns.filter isCompound = (f.postorder.filter isCompound).eraseDups := by
  have hvars : (f.vars.toList.map atom).filter isCompound = [] := by
    rw [List.filter_eq_nil_iff]
    intro g hg
    obtain ⟨c, -, rfl⟩ := List.mem_map.mp hg
    exact Bool.false_ne_true
  have hcompound : ∀ g ∈ (f.postorder.filter isCompound).eraseDups, g.isCompound = true := by
    intro g hg
    exact (List.mem_filter.mp (List.mem_eraseDups.mp hg)).2
  rw [columns, List.filter_append, hvars, List.filter_eq_self.mpr hcompound, List.nil_append]

theorem columns_eq_append : f.columns = f.vars.toList.map atom ++ f.columns.filter isCompound := by
  rw [filter_isCompound_columns, columns]

/-- **The compound columns stay in order.** -/
theorem filter_isCompound_columns_rename :
    (f.rename p).columns.filter isCompound = (f.columns.filter isCompound).map (rename p) := by
  have hcompound : isCompound ∘ rename p = isCompound := funext fun g => isCompound_rename p g
  rw [filter_isCompound_columns, filter_isCompound_columns, postorder_rename, List.filter_map,
    hcompound, eraseDups_map (rename_injective p.injective)]

theorem map_atom_map_toList :
    (f.vars.toList.map p).map atom = (f.vars.toList.map atom).map (rename p) := by
  rw [List.map_map, List.map_map]
  rfl

theorem columns_rename_perm : (f.rename p).columns.Perm (f.columns.map (rename p)) := by
  rw [columns_eq_append (f.rename p), columns_eq_append f, filter_isCompound_columns_rename,
    List.map_append, ← map_atom_map_toList]
  exact ((vars_rename_perm p f).map atom).append_right _

/-- Nor do the others move, if the variables remain in order. -/
theorem columns_rename_of_ordered (h : ∀ c ∈ f.vars, ∀ d ∈ f.vars, c < d → p c < p d) :
    (f.rename p).columns = f.columns.map (rename p) := by
  rw [columns_eq_append (f.rename p), columns_eq_append f, filter_isCompound_columns_rename,
    List.map_append, ← map_atom_map_toList, vars_rename_of_ordered p f h]

/-! ### Rows -/

section Rows

variable {p f} {s t : Text} {i j : Nat}

theorem sameRow_rename_iff :
    (f.table s).SameRow p ((f.rename p).table t) i j ↔
      i < f.vars.assignmentCount ∧ j < (f.rename p).vars.assignmentCount ∧
        ∀ c ∈ f.vars, (f.rename p).vars.valuation j (p c) = f.vars.valuation i c :=
  sameRow_table_iff fun c hc => (mem_vars_rename p f).mpr ⟨c, hc, rfl⟩

/-- **Each row has its like**, and only one. -/
theorem existsUnique_sameRow_rename (hi : i < f.vars.assignmentCount) :
    ∃ j, (f.table s).SameRow p ((f.rename p).table t) i j ∧
      ∀ k, (f.table s).SameRow p ((f.rename p).table t) i k → k = j := by
  -- each new letter has the value of the old one
  let v : Char → Bool := Function.extend p (f.vars.valuation i) fun _ => false
  have hv : ∀ c, v (p c) = f.vars.valuation i c := p.injective.extend_apply _ _
  obtain ⟨j, hj, hvalues⟩ := (f.rename p).vars.exists_valuation_eq v
  have hnew : ∀ c ∈ f.vars, p c ∈ (f.rename p).vars := fun c hc =>
    (mem_vars_rename p f).mpr ⟨c, hc, rfl⟩
  refine ⟨j, sameRow_rename_iff.mpr ⟨hi, hj, fun c hc => ?_⟩, fun k hk => ?_⟩
  · rw [hvalues (p c) (hnew c hc), hv]
  · obtain ⟨-, hk, hsame⟩ := sameRow_rename_iff.mp hk
    refine Names.eq_of_valuation_eq hk hj fun c hc => ?_
    obtain ⟨d, hd, rfl⟩ := (mem_vars_rename p f).mp hc
    rw [hsame d hd, hvalues (p d) hc, hv]

/-- A column has the same value under values that follow its letters. -/
theorem truth_rename_of_agree {g : Formula} {v w : Char → Bool} (hg : g ∈ f.columns)
    (h : ∀ c ∈ f.vars, w (p c) = v c) : (g.rename p).truth w = g.truth v := by
  rw [truth_rename]
  exact truth_congr fun c hc => h c (mem_vars_of_mem_columns hg hc)

/-- Variables in the same places have the same digits. -/
theorem valuation_rename_of_ordered (h : ∀ c ∈ f.vars, ∀ d ∈ f.vars, c < d → p c < p d)
    (i : Nat) : ∀ c ∈ f.vars, (f.rename p).vars.valuation i (p c) = f.vars.valuation i c := by
  intro c hc
  obtain ⟨k, hk⟩ := List.mem_iff_getElem?.mp hc
  have hvars := vars_rename_of_ordered p f h
  have hk' : (f.rename p).vars.toList[k]? = some (p c) := by
    rw [hvars, List.getElem?_map, hk]
    rfl
  have hsize : (f.rename p).vars.size = f.vars.size := by
    rw [Names.size, hvars, List.length_map, Names.size]
  rw [Names.valuation_of_getElem? i hk', Names.valuation_of_getElem? i hk, hsize]

theorem rows_rename_of_ordered (h : ∀ c ∈ f.vars, ∀ d ∈ f.vars, c < d → p c < p d) :
    ((f.rename p).table t).rows = (f.table s).rows := by
  have hcount : (f.rename p).vars.assignmentCount = f.vars.assignmentCount := by
    rw [Names.assignmentCount, Names.size, vars_rename_of_ordered p f h, List.length_map]
    rfl
  simp only [table, hcount, columns_rename_of_ordered p f h, List.map_map]
  refine List.map_congr_left fun i _ => List.map_congr_left fun g hg => ?_
  exact truth_rename_of_agree hg (valuation_rename_of_ordered h i)

end Rows

/-! ### Tables -/

/-- **The table of a formula with other letters.** -/
theorem isRenaming_table {p : Renaming} {f : Formula} (hprec : f.FollowsPrecedence)
    (hlettered : f.IsLettered) (s : Text) :
    (f.table s).IsRenaming p ((f.rename p).table (s.map p)) where
  expression := rfl
  columns := columns_rename_perm p f
  compound := filter_isCompound_columns_rename p f
  row := by
    intro i hi
    rw [length_rows_table] at hi
    exact existsUnique_sameRow_rename hi
  value := by
    intro i j hrows g hg
    obtain ⟨hi, hj, hsame⟩ := sameRow_rename_iff.mp hrows
    have hg' : g.rename p ∈ (f.rename p).columns :=
      (columns_rename_perm p f).mem_iff.mpr (List.mem_map_of_mem hg)
    refine ⟨g.truth (f.vars.valuation i), value?_table hprec hlettered hg hi _, ?_⟩
    rw [value?_table (followsPrecedence_rename.mpr hprec) (isLettered_rename p hlettered) hg' hj,
      truth_rename_of_agree hg hsame]
  ordered := by
    intro h
    refine ⟨?_, rows_rename_of_ordered h⟩
    simp only [Table.headers, table, columns_rename_of_ordered p f h, List.map_map]
    exact List.map_congr_left fun g _ => text_rename p g

end Formula

/-- **Tables do not depend on which letters are used.**  With its letters exchanged, a line
has a table if it had one, and this is the old one with the letters exchanged; and else it
has the old error, with the variable exchanged that this one may name. -/
theorem buildTable_map (p : Renaming) (line : Text) :
    ((∃ u, buildTable (line.map p) = .ok u) ↔ ∃ t, buildTable line = .ok t) ∧
    (∀ e, buildTable line = .error e → buildTable (line.map p) = .error (e.map p id)) ∧
    ∀ t, buildTable line = .ok t →
      ∃ u, buildTable (line.map p) = .ok u ∧ t.IsRenaming p u := by
  have htrim := Text.trim_map p.isBlank_apply line
  have hmarks : Text.marks (Text.trim (line.map p)) = line.trim.marks.map (Prod.map p id) := by
    rw [htrim, Text.marks_map p.isBlank_apply]
  have herror : ∀ e, buildTable line = .error e → buildTable (line.map p) = .error (e.map p id) :=
    fun e he => buildTable_error_of_marks hmarks he
  have hok : ∀ t, buildTable line = .ok t →
      ∃ u, buildTable (line.map p) = .ok u ∧ t.IsRenaming p u := by
    intro t ht
    obtain ⟨f, hprec, hlettered, rfl, hu⟩ := buildTable_ok_of_marks hmarks ht
    rw [htrim] at hu
    exact ⟨_, hu, Formula.isRenaming_table hprec hlettered _⟩
  refine ⟨⟨?_, fun ⟨t, ht⟩ => ?_⟩, herror, hok⟩
  · rintro ⟨u, hu⟩
    cases h : buildTable line with
    | ok t => exact ⟨t, rfl⟩
    | error e =>
      rw [herror e h] at hu
      cases hu
  · obtain ⟨u, hu, -⟩ := hok t ht
    exact ⟨u, hu⟩

/-- An exchange of two letters exchanges their columns, and the two rows where they differ:
the implication is false in the second row, and with the letters exchanged in the third. -/
theorem buildTable_map_of_swap :
    let p : Renaming := .swap 'A' 'B' (by decide) (by decide)
    let f : Formula := .bin .implies (.atom 'A') (.atom 'B')
    ∃ t u, buildTable f.text = .ok t ∧ buildTable (f.text.map p) = .ok u ∧ t.IsRenaming p u ∧
      t.SameRow p u 1 2 ∧ t.value? 1 f.text = some false ∧
      u.value? 2 (f.rename p).text = some false := by
  intro p f
  have hcases : ∀ c ∈ f.letters, c = 'A' ∨ c = 'B' := fun c hc => by simpa [f] using hc
  have hlettered : f.IsLettered := fun c hc => by
    rcases hcases c hc with rfl | rfl <;> decide
  have ht : buildTable f.text = .ok (f.table f.text.trim) :=
    Formula.buildTable_text (by decide) hlettered (by decide) (by decide)
  obtain ⟨u, hu, hrenaming⟩ := (buildTable_map p f.text).2.2 _ ht
  -- which table it is
  have hu' : buildTable (f.text.map p) = .ok ((f.rename p).table (f.rename p).text.trim) := by
    rw [← Formula.text_rename]
    exact Formula.buildTable_text (by decide) (Formula.isLettered_rename p hlettered) (by decide)
      (by decide)
  obtain rfl := Except.ok.inj (hu'.symm.trans hu)
  have hvalues : ∀ c ∈ f.vars, (f.rename p).vars.valuation 2 (p c) = f.vars.valuation 1 c :=
    fun c hc => by rcases hcases c (Formula.mem_vars.mp hc) with rfl | rfl <;> decide
  have hrows : (f.table f.text.trim).SameRow p ((f.rename p).table (f.rename p).text.trim) 1 2 :=
    Formula.sameRow_rename_iff.mpr ⟨by decide, by decide, hvalues⟩
  have hvalue : (f.table f.text.trim).value? 1 f.text = some false := by decide
  obtain ⟨b, hb, hb'⟩ := hrenaming.value 1 2 hrows f (by decide)
  obtain rfl := Option.some.inj (hb.symm.trans hvalue)
  exact ⟨_, _, ht, hu, hrenaming, hrows, hvalue, hb'⟩

end TruthTables
