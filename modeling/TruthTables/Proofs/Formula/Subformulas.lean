import TruthTables.Proofs.Formula.Symbols

/-!
# The sub-formulas of a formula

The list of the sub-formulas in post-order ends in the formula itself, and all
before it have fewer nodes.  Whatever passes from a formula to its operands holds
of everything in the list: following precedence, having letters as variables,
having variables from a given set.

The members of the list are variables or compound.  The variables in it are those
of the formula, and the compound ones are as many as its operators.

## Main definitions

* `Formula.isCompound f` — `f` is a negation or has a connective.
* `Formula.OccursIn g f` — `g` is the formula `f` or occurs in an operand of it.

## Main results

* `mem_postorder_iff_occursIn` — the list has what occurs in the formula.
* `forall_mem_postorder` — **what passes to operands passes to all sub-formulas.**
* `exists_postorder_eq_append` — the formula comes last, and only there.
-/

namespace TruthTables

namespace Formula

/-- Whether a formula is a negation or has a connective, and so is no variable. -/
def isCompound : Formula → Bool
  | atom _ => false
  | neg _ => true
  | bin _ _ _ => true

theorem isCompound_eq_false_iff {f : Formula} : f.isCompound = false ↔ ∃ c, f = atom c := by
  cases f <;> simp [isCompound]

/-- The formula `g` occurs in a formula: it is the whole, or occurs in an operand. -/
inductive OccursIn (g : Formula) : Formula → Prop
  /-- The whole occurs. -/
  | whole : OccursIn g g
  /-- What occurs in the operand of a negation occurs. -/
  | neg {f : Formula} (h : OccursIn g f) : OccursIn g (neg f)
  /-- What occurs in the left operand of a connective occurs. -/
  | left {op : Connective} {l r : Formula} (h : OccursIn g l) : OccursIn g (bin op l r)
  /-- What occurs in the right one occurs. -/
  | right {op : Connective} {l r : Formula} (h : OccursIn g r) : OccursIn g (bin op l r)

/-- **The list of sub-formulas has what occurs in the formula.** -/
theorem mem_postorder_iff_occursIn {f g : Formula} : g ∈ f.postorder ↔ g.OccursIn f := by
  constructor
  · intro h
    induction f with
    | atom c =>
      rw [List.mem_singleton.mp h]
      exact .whole
    | neg f ih =>
      rcases List.mem_append.mp h with h | h
      · exact .neg (ih h)
      · rw [List.mem_singleton.mp h]
        exact .whole
    | bin op l r ihl ihr =>
      rcases List.mem_append.mp h with h | h
      · rcases List.mem_append.mp h with h | h
        · exact .left (ihl h)
        · exact .right (ihr h)
      · rw [List.mem_singleton.mp h]
        exact .whole
  · intro h
    induction h with
    | whole => cases g <;> simp
    | neg _ ih => exact List.mem_append_left _ ih
    | left _ ih => exact List.mem_append_left _ (List.mem_append_left _ ih)
    | right _ ih => exact List.mem_append_left _ (List.mem_append_right _ ih)

/-! ### What passes to sub-formulas -/

/-- **What passes to operands passes to all sub-formulas.** -/
theorem forall_mem_postorder {P : Formula → Prop} (hneg : ∀ f, P (neg f) → P f)
    (hbin : ∀ op l r, P (bin op l r) → P l ∧ P r) :
    ∀ f : Formula, P f → ∀ g ∈ f.postorder, P g := by
  intro f
  induction f with
  | atom c =>
    intro hf g hg
    rw [List.mem_singleton.mp hg]
    exact hf
  | neg f ih =>
    intro hf g hg
    rcases List.mem_append.mp hg with hg | hg
    · exact ih (hneg f hf) g hg
    · rw [List.mem_singleton.mp hg]
      exact hf
  | bin op l r ihl ihr =>
    intro hf g hg
    obtain ⟨hl, hr⟩ := hbin op l r hf
    rcases List.mem_append.mp hg with hg | hg
    · rcases List.mem_append.mp hg with hg | hg
      · exact ihl hl g hg
      · exact ihr hr g hg
    · rw [List.mem_singleton.mp hg]
      exact hf

theorem followsPrecedence_of_mem_postorder {f g : Formula} (hf : f.FollowsPrecedence)
    (hg : g ∈ f.postorder) : g.FollowsPrecedence :=
  forall_mem_postorder (fun _ h => h.2) (fun _ _ _ h => h.2.2) f hf g hg

theorem letters_subset_of_mem_postorder {f g : Formula} (hg : g ∈ f.postorder) :
    g.letters ⊆ f.letters := by
  refine forall_mem_postorder (P := fun g => g.letters ⊆ f.letters) (fun _ h => h) ?_ f
    (fun _ hc => hc) g hg
  intro op l r h
  exact ⟨fun c hc => h (List.mem_append_left _ hc), fun c hc => h (List.mem_append_right _ hc)⟩

theorem isLettered_of_mem_postorder {f g : Formula} (hf : f.IsLettered) (hg : g ∈ f.postorder) :
    g.IsLettered :=
  fun c hc => hf c (letters_subset_of_mem_postorder hg hc)

/-! ### The order of sub-formulas -/

/-- **A formula is the last of its sub-formulas**, and all others have fewer nodes. -/
theorem exists_postorder_eq_append (f : Formula) :
    ∃ gs, f.postorder = gs ++ [f] ∧ ∀ g ∈ gs, g.nodeCount < f.nodeCount := by
  -- no sub-formula has more nodes than the formula
  have hle : ∀ h : Formula, ∀ g ∈ h.postorder, g.nodeCount ≤ h.nodeCount := by
    intro h
    refine forall_mem_postorder (P := fun g => g.nodeCount ≤ h.nodeCount) ?_ ?_ h (Nat.le_refl _)
    · intro g hg
      rw [nodeCount_neg] at hg
      omega
    · intro op l r hg
      rw [nodeCount_bin] at hg
      omega
  cases f with
  | atom c => exact ⟨[], rfl, by simp⟩
  | neg f =>
    refine ⟨f.postorder, rfl, fun g hg => ?_⟩
    exact Nat.lt_succ_of_le (hle f g hg)
  | bin op l r =>
    refine ⟨l.postorder ++ r.postorder, rfl, fun g hg => ?_⟩
    rw [nodeCount_bin]
    rcases List.mem_append.mp hg with hg | hg
    · have := hle l g hg
      omega
    · have := hle r g hg
      omega

theorem mem_postorder_self (f : Formula) : f ∈ f.postorder := by
  obtain ⟨gs, hgs, -⟩ := exists_postorder_eq_append f
  rw [hgs]
  exact List.mem_append_right _ (List.mem_singleton.mpr rfl)

/-! ### Variables and compound sub-formulas -/

theorem atom_mem_postorder {f : Formula} {c : Char} : atom c ∈ f.postorder ↔ c ∈ f.letters := by
  induction f with
  | atom d => simp
  | neg f ih => simp [ih]
  | bin op l r ihl ihr => simp [ihl, ihr]

/-- There is a compound sub-formula for each operator. -/
theorem length_filter_isCompound (f : Formula) :
    (f.postorder.filter isCompound).length = f.operatorCount := by
  induction f with
  | atom c => rfl
  | neg f ih =>
    rw [postorder_neg, List.filter_append, List.length_append, ih]
    rfl
  | bin op l r ihl ihr =>
    rw [postorder_bin, List.filter_append, List.filter_append, List.length_append,
      List.length_append, ihl, ihr]
    rfl

end Formula

end TruthTables
