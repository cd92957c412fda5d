import TruthTables.Proofs.Table.Selection
import TruthTables.Proofs.Formula.RoundTrip
import TruthTables.Proofs.Formula.Subformulas
import TruthTables.Proofs.Assignment.Lookup

/-!
# The columns of a formula

The columns of a table are told apart by their headers only.  Two formulas may
well have one written form, but no two sub-formulas of a formula that follows
precedence do, so that nothing is lost: the columns are the variables in order,
and then the compound sub-formulas, each where it first occurs.

The formula itself comes last among its sub-formulas, and nothing before it is
equal to it.  So it is never dropped as a repetition, and remains the last column.

## Main definitions

* `Formula.columns f` — the variables and the different compound sub-formulas of `f`.

## Main results

* `eq_of_text_eq` — **formulas that follow precedence are known by their text.**
* `selectColumns_postorder` — the columns of a table are those of its formula.
* `getLast?_columns`, `take_columns`, `length_columns_le`, `mem_columns`,
  `mem_vars_of_mem_columns`, `nodup_map_text_columns` — what the columns are.
-/

namespace TruthTables

namespace Formula

/-- The variables of a formula in order, and then its compound sub-formulas, each
where it first occurs in post-order. -/
def columns (f : Formula) : List Formula :=
  f.vars.toList.map atom ++ (f.postorder.filter isCompound).eraseDups

/-- **Formulas that follow precedence are known by their text**, if their
variables are letters. -/
theorem eq_of_text_eq {f g : Formula} (hf : f.FollowsPrecedence) (hg : g.FollowsPrecedence)
    (hfl : f.IsLettered) (hgl : g.IsLettered) (h : f.text = g.text) : f = g :=
  eq_of_symbols_eq hf hg (symbols_eq_of_text_eq hfl hgl h)

/-! ### Where the columns come from -/

theorem nodup_map_atom_vars (f : Formula) : (f.vars.toList.map atom).Nodup :=
  f.vars.nodup_toList.map fun _ _ h => atom.inj h

/-- The sub-formulas other than the variables are the compound ones. -/
theorem filter_notMem_vars (f : Formula) :
    (f.postorder.filter fun g => g ∉ f.vars.toList.map atom) = f.postorder.filter isCompound := by
  refine List.filter_congr fun g hg => ?_
  cases g with
  | atom c =>
    have hc : c ∈ f.vars := mem_vars.mpr (atom_mem_postorder.mp hg)
    have hmem : atom c ∈ f.vars.toList.map atom := List.mem_map_of_mem hc
    rw [isCompound, decide_eq_false_iff_not, Decidable.not_not]
    exact hmem
  | neg g => simp [isCompound]
  | bin op l r => simp [isCompound]

/-- The columns are what is left of the variables and the sub-formulas, in this order,
when repetitions are dropped. -/
theorem eraseDups_vars_append_postorder (f : Formula) :
    (f.vars.toList.map atom ++ f.postorder).eraseDups = f.columns := by
  have hvars : ((f.vars.toList.map atom).map fun g => g) = f.vars.toList.map atom := List.map_id _
  rw [eraseDups_eq_firstBearers, firstBearers_append,
    firstBearers_eq_self _ (hvars.symm ▸ nodup_map_atom_vars f), hvars, filter_notMem_vars,
    ← eraseDups_eq_firstBearers, columns]

/-- **The columns of a table are those of its formula.**  Choosing them by their
headers comes to the same as choosing them as formulas. -/
theorem selectColumns_postorder {f : Formula} (hprec : f.FollowsPrecedence) (hf : f.IsLettered) :
    selectColumns f.vars.toList f.postorder = f.columns := by
  -- whatever is chosen from is a sub-formula
  have hmem : ∀ g ∈ f.vars.toList.map atom ++ f.postorder, g ∈ f.postorder := by
    intro g hg
    rcases List.mem_append.mp hg with hg | hg
    · obtain ⟨c, hc, rfl⟩ := List.mem_map.mp hg
      exact atom_mem_postorder.mpr (mem_vars.mp hc)
    · exact hg
  have htext : ∀ g ∈ f.vars.toList.map atom ++ f.postorder,
      ∀ h ∈ f.vars.toList.map atom ++ f.postorder, g.text = h.text ↔ g = h := by
    intro g hg h hh
    have hg' := hmem g hg
    have hh' := hmem h hh
    constructor
    · exact eq_of_text_eq (followsPrecedence_of_mem_postorder hprec hg')
        (followsPrecedence_of_mem_postorder hprec hh') (isLettered_of_mem_postorder hf hg')
        (isLettered_of_mem_postorder hf hh')
    · exact congrArg text
  rw [selectColumns_eq, firstBearers_congr _ htext, ← eraseDups_eq_firstBearers,
    eraseDups_vars_append_postorder]

/-! ### What the columns are -/

/-- **The columns are the sub-formulas**, without repetitions and in another order. -/
theorem mem_columns {f g : Formula} : g ∈ f.columns ↔ g ∈ f.postorder := by
  rw [columns, List.mem_append, List.mem_map, List.mem_eraseDups, List.mem_filter]
  constructor
  · rintro (⟨c, hc, rfl⟩ | ⟨hg, -⟩)
    · exact atom_mem_postorder.mpr (mem_vars.mp hc)
    · exact hg
  · intro hg
    cases g with
    | atom c => exact .inl ⟨c, mem_vars.mpr (atom_mem_postorder.mp hg), rfl⟩
    | neg g => exact .inr ⟨hg, rfl⟩
    | bin op l r => exact .inr ⟨hg, rfl⟩

/-- No column has a variable that the formula does not have. -/
theorem mem_vars_of_mem_columns {f g : Formula} {c : Char} (hg : g ∈ f.columns)
    (hc : c ∈ g.letters) : c ∈ f.vars :=
  mem_vars.mpr (letters_subset_of_mem_postorder (mem_columns.mp hg) hc)

theorem nodup_map_text_columns {f : Formula} (hprec : f.FollowsPrecedence) (hf : f.IsLettered) :
    (f.columns.map text).Nodup := by
  rw [← selectColumns_postorder hprec hf, selectColumns_eq]
  exact nodup_map_firstBearers text _

/-- The variables come first. -/
theorem take_columns (f : Formula) : f.columns.take f.vars.size = f.vars.toList.map atom := by
  have hlength : (f.vars.toList.map atom).length = f.vars.size := List.length_map _
  rw [columns, ← hlength, List.take_left]

/-- **The formula itself is the last column.** -/
theorem getLast?_columns (f : Formula) : f.columns.getLast? = some f := by
  obtain ⟨gs, hpost, hless⟩ := exists_postorder_eq_append f
  cases hf : f.isCompound with
  | false =>
    obtain ⟨c, rfl⟩ := isCompound_eq_false_iff.mp hf
    rfl
  | true =>
    -- `f` is not dropped, as all before it have fewer nodes
    have hnew : f ∉ (gs.filter isCompound).map fun g => g := by
      intro hmem
      rw [List.map_id', List.mem_filter] at hmem
      exact absurd (hless f hmem.1) (Nat.lt_irrefl _)
    have hlast : [f].filter (fun g => g ∉ (gs.filter isCompound).map fun g => g) = [f] := by
      rw [List.filter_eq_self]
      intro g hg
      rw [List.mem_singleton.mp hg]
      exact decide_eq_true hnew
    rw [columns, hpost, List.filter_append, List.filter_cons_of_pos hf, List.filter_nil,
      eraseDups_eq_firstBearers, firstBearers_append, hlast, ← List.append_assoc]
    exact List.getLast?_concat ..

/-- There are no more columns than variables and operators. -/
theorem length_columns_le (f : Formula) : f.columns.length ≤ f.vars.size + f.operatorCount := by
  have hle : (f.postorder.filter isCompound).eraseDups.length ≤ f.operatorCount := by
    rw [eraseDups_eq_firstBearers, ← length_filter_isCompound]
    exact (firstBearers_sublist _ _).length_le
  have hvars : (f.vars.toList.map atom).length = f.vars.size := List.length_map _
  rw [columns, List.length_append, hvars]
  exact Nat.add_le_add_left hle _

end Formula

end TruthTables
