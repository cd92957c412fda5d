import TruthTables.Proofs.Table.Correctness

/-!
# A table can be filled in from left to right

Whoever fills in a truth table by hand looks at nothing but the columns further to
the left: a negation turns around the column of its operand, a connective joins the
columns of its two operands.  This works because the operands of a column always
have columns of their own, and these come before it.

In post-order a formula comes after its operands.  Putting the variables in front
keeps it so, as variables have no operands; and so does dropping repetitions, as the
first of several equal formulas is the one that is kept.

## Main definitions

* `Formula.operands f` — the operands of `f`.
* `OperandsFirst fs` — each formula in `fs` comes after its operands.
* `Table.FollowsFromEarlier t j f` — the column `j` of `t`, which is that of `f`, has
  its values from earlier columns.

## Main results

* `operandsFirst_eraseDups` — dropping repetitions keeps operands first.
* `operandsFirst_columns` — the columns of a formula have operands first.
* `columns_follow_from_earlier` — **every column of a table follows from earlier ones.**
-/

namespace TruthTables

namespace Formula

/-- The operands of a formula. -/
def operands : Formula → List Formula
  | atom _ => []
  | neg f => [f]
  | bin _ l r => [l, r]

end Formula

/-- Each formula of a list comes after its operands: the list can be made by putting
formulas to its end whose operands are there already. -/
inductive OperandsFirst : List Formula → Prop
  /-- There is no formula. -/
  | nil : OperandsFirst []
  /-- One formula more comes last. -/
  | snoc {fs : List Formula} {f : Formula} (hfs : OperandsFirst fs)
      (hf : ∀ g ∈ f.operands, g ∈ fs) : OperandsFirst (fs ++ [f])

/-! ### Lists with operands first -/

theorem operandsFirst_append {fs gs : List Formula} (hfs : OperandsFirst fs)
    (hgs : OperandsFirst gs) : OperandsFirst (fs ++ gs) := by
  induction hgs with
  | nil =>
    rw [List.append_nil]
    exact hfs
  | snoc _ hf ih =>
    rw [← List.append_assoc]
    exact ih.snoc fun g hg => List.mem_append_right fs (hf g hg)

theorem operandsFirst_map_atom (cs : List Char) : OperandsFirst (cs.map .atom) := by
  induction cs with
  | nil => exact .nil
  | cons c cs ih =>
    have hc : OperandsFirst [.atom c] := OperandsFirst.nil.snoc fun g hg => by cases hg
    exact operandsFirst_append hc ih

/-- **Dropping repetitions keeps operands first**, since it is the first of equal
formulas that stays. -/
theorem operandsFirst_eraseDups {fs : List Formula} (h : OperandsFirst fs) :
    OperandsFirst fs.eraseDups := by
  induction h with
  | nil => exact .nil
  | @snoc fs f _ hf ih =>
    rw [List.eraseDups_append]
    by_cases hmem : f ∈ fs
    · have hdrop : [f].removeAll fs = [] := by simp [List.removeAll, hmem]
      rw [hdrop]
      simpa using ih
    · have hkeep : [f].removeAll fs = [f] := by simp [List.removeAll, hmem]
      rw [hkeep]
      exact ih.snoc fun g hg => List.mem_eraseDups.mpr (hf g hg)

/-- Where the operands of a formula are. -/
theorem exists_lt_getElem?_eq {fs : List Formula} (h : OperandsFirst fs) :
    ∀ (j : Nat) (f : Formula), fs[j]? = some f → ∀ g ∈ f.operands, ∃ i < j, fs[i]? = some g := by
  induction h with
  | nil =>
    intro j f hf
    cases hf
  | @snoc fs f' _ hf' ih =>
    intro j f hf g hg
    -- an index that is found before the last place is found with it as well
    have hextend : ∀ i : Nat, fs[i]? = some g → (fs ++ [f'])[i]? = some g := by
      intro i hi
      obtain ⟨hlt, -⟩ := List.getElem?_eq_some_iff.mp hi
      rw [List.getElem?_append_left hlt]
      exact hi
    by_cases hj : j < fs.length
    · rw [List.getElem?_append_left hj] at hf
      obtain ⟨i, hij, hi⟩ := ih j f hf g hg
      exact ⟨i, hij, hextend i hi⟩
    · obtain ⟨hlt, -⟩ := List.getElem?_eq_some_iff.mp hf
      rw [List.length_append, List.length_singleton] at hlt
      obtain rfl : j = fs.length := by omega
      rw [List.getElem?_concat_length] at hf
      obtain rfl := Option.some.inj hf
      obtain ⟨i, hi⟩ := List.getElem?_of_mem (hf' g hg)
      obtain ⟨hlt, -⟩ := List.getElem?_eq_some_iff.mp hi
      exact ⟨i, hlt, hextend i hi⟩

namespace Formula

theorem operandsFirst_postorder (f : Formula) : OperandsFirst f.postorder := by
  induction f with
  | atom c => exact OperandsFirst.nil.snoc fun g hg => by cases hg
  | neg f ih =>
    refine ih.snoc fun g hg => ?_
    obtain rfl := List.mem_singleton.mp hg
    exact mem_postorder_self g
  | bin op l r ihl ihr =>
    refine (operandsFirst_append ihl ihr).snoc fun g hg => ?_
    rcases List.mem_cons.mp hg with rfl | hg
    · exact List.mem_append_left _ (mem_postorder_self g)
    · obtain rfl := List.mem_singleton.mp hg
      exact List.mem_append_right _ (mem_postorder_self g)

/-- **The columns of a formula have operands first.** -/
theorem operandsFirst_columns (f : Formula) : OperandsFirst f.columns := by
  rw [← eraseDups_vars_append_postorder]
  exact operandsFirst_eraseDups
    (operandsFirst_append (operandsFirst_map_atom _) f.operandsFirst_postorder)

/-- The columns after those of the variables are compound. -/
theorem lt_size_of_getElem?_columns_eq_atom {f : Formula} {j : Nat} {c : Char}
    (h : f.columns[j]? = some (atom c)) : j < f.vars.size := by
  have hlength : (f.vars.toList.map atom).length = f.vars.size := List.length_map _
  refine Decidable.byContradiction fun hj => ?_
  rw [columns, List.getElem?_append_right (by omega)] at h
  have hmem := List.mem_eraseDups.mp (List.mem_of_getElem? h)
  cases (List.mem_filter.mp hmem).2

end Formula

/-! ### Tables -/

/-- The column with index `j`, which is that of the formula, has its values from
earlier columns; only variables have none to go back to, and they come first. -/
def Table.FollowsFromEarlier (t : Table) (j : Nat) : Formula → Prop
  | .atom _ => j < t.vars.size
  | .neg f => ∃ i < j, t.columns[i]? = some f ∧
      ∀ row ∈ t.rows, ∃ b, row[i]? = some b ∧ row[j]? = some !b
  | .bin op l r => ∃ i₁ < j, ∃ i₂ < j, t.columns[i₁]? = some l ∧ t.columns[i₂]? = some r ∧
      ∀ row ∈ t.rows, ∃ b c, row[i₁]? = some b ∧ row[i₂]? = some c ∧ row[j]? = some (op.apply b c)

/-- The values of one row belong to the same values for the variables. -/
theorem exists_getElem?_row_eq_truth {expression : Text} {f : Formula} {row : List Bool}
    (h : row ∈ (f.table expression).rows) :
    ∃ v : Char → Bool, ∀ (j : Nat) (g : Formula), f.columns[j]? = some g →
      row[j]? = some (g.truth v) := by
  obtain ⟨i, hi⟩ := List.getElem?_of_mem h
  refine ⟨f.vars.valuation i, fun j g hg => ?_⟩
  rw [f.getElem?_rows_table expression hi, List.getElem?_map, hg, Option.map_some]

/-- **Every column of a table follows from earlier ones.**  The operands of its
formula have columns further to the left, and in each row its value is what the
outermost sign of the formula makes of theirs; the variables come first. -/
theorem columns_follow_from_earlier {line : Text} {table : Table}
    (h : buildTable line = .ok table) :
    ∀ (j : Nat) (f : Formula), table.columns[j]? = some f → table.FollowsFromEarlier j f := by
  obtain ⟨p, -, -, -, rfl⟩ := buildTable_eq_ok_iff.mp h
  intro j f hf
  have hearlier := exists_lt_getElem?_eq p.root.operandsFirst_columns j f hf
  cases f with
  | atom c => exact Formula.lt_size_of_getElem?_columns_eq_atom hf
  | neg f =>
    obtain ⟨i, hij, hi⟩ := hearlier f List.mem_cons_self
    refine ⟨i, hij, hi, fun row hrow => ?_⟩
    obtain ⟨v, hv⟩ := exists_getElem?_row_eq_truth hrow
    exact ⟨f.truth v, hv i f hi, hv j (.neg f) hf⟩
  | bin op l r =>
    obtain ⟨i₁, hij₁, hi₁⟩ := hearlier l List.mem_cons_self
    obtain ⟨i₂, hij₂, hi₂⟩ := hearlier r (List.mem_cons_of_mem l List.mem_cons_self)
    refine ⟨i₁, hij₁, i₂, hij₂, hi₁, hi₂, fun row hrow => ?_⟩
    obtain ⟨v, hv⟩ := exists_getElem?_row_eq_truth hrow
    have hvalue := hv j (.bin op l r) hf
    rw [Formula.truth_bin] at hvalue
    exact ⟨l.truth v, r.truth v, hv i₁ l hi₁, hv i₂ r hi₂, hvalue⟩

/-- Where both operands of an implication are the same conjunction, its column goes
back to the one column of the conjunction. -/
theorem columns_follow_from_earlier_repeated_conjunction :
    let g : Formula := .bin .and (.atom 'B') (.atom 'A')
    ∃ table, buildTable "B∧A → B∧A".toList = .ok table ∧
      table.columns[3]? = some (.bin .implies g g) ∧
      table.FollowsFromEarlier 3 (.bin .implies g g) := by
  intro g
  let line : Text := "B∧A → B∧A".toList
  let f : Formula := .bin .implies g g
  have hp : parse line.trim = .ok ⟨f, f.postorder⟩ := by
    rw [parse_eq_ok_iff_exists_scan]
    exact ⟨_, rfl, by rw [parseTokens_eq_read]; rfl⟩
  have h : buildTable line = .ok (f.table line.trim) :=
    buildTable_eq_ok_iff.mpr ⟨_, hp, by decide, by decide, rfl⟩
  have hcolumn : (f.table line.trim).columns[3]? = some f := by decide
  exact ⟨_, h, hcolumn, columns_follow_from_earlier h 3 f hcolumn⟩

end TruthTables
