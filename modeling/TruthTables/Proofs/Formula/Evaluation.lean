import TruthTables.Formula.Eval
import TruthTables.Proofs.Assignment.Listing

/-!
# What evaluating a formula comes to

A formula has a value under an assignment if all its variables have one, and then it is the truth
value.  If some have none, then one of them is blamed, and it is the first of them from left
to right.  This is so because both operands of a connective are always evaluated, the left one
first.  An evaluation that went on only as long as the value is open would find a value in
`A ∧ B` as soon as `A` is false.

In all cases the outcome can be told from the leaves (`Formula.eval_eq_find?`), and no more of the
assignment counts than what it says about them (`Formula.eval_congr`).

## Main definitions

* `Assignment.valuation a` — truth values for all variables that agree with `a`.
* `Formula.EvaluatesTo a f result` — `result` is what `f` has to come to under `a`.

## Main results

* `Formula.eval_eq_find?` — **the first leaf without a value decides, if there is one.**
* `eval_evaluatesTo` — what evaluating comes to, for all formulas and assignments.
-/

namespace TruthTables

namespace Assignment

variable {a : Assignment}

/-- Truth values for all variables: those of the assignment, and false for the others. -/
def valuation (a : Assignment) (c : Char) : Bool := (a.get? c).getD false

theorem valuation_fst : ∀ x ∈ a.toList, a.valuation x.1 = x.2 := by
  intro x hx
  rw [valuation, get?_eq_some_iff.mpr hx, Option.getD_some]

end Assignment

namespace Formula

/-- What the formula `f` has to come to under the assignment `a`. -/
structure EvaluatesTo (a : Assignment) (f : Formula) (result : Except Unbound Bool) : Prop where
  /-- There is a value exactly if each variable has one. -/
  ok_iff : (∃ b, result = .ok b) ↔ ∀ c ∈ f.vars, c ∈ a.names
  /-- The value is the truth value, for the truth values that the assignment gives. -/
  value : (∀ c ∈ f.vars, c ∈ a.names) →
    ∀ v : Char → Bool, (∀ x ∈ a.toList, v x.1 = x.2) → result = .ok (f.truth v)
  /-- The first leaf without a value is blamed, whatever values the leaves before it have. -/
  blame : ∀ us c vs, f.letters = us ++ c :: vs → (∀ d ∈ us, d ∈ a.names) → c ∉ a.names →
    result = .error ⟨c⟩

/-- **The first leaf without a value decides, if there is one.** -/
theorem eval_eq_find? {a : Assignment} {v : Char → Bool} (hv : ∀ x ∈ a.toList, v x.1 = x.2)
    (f : Formula) :
    f.eval a =
      match f.letters.find? fun c => c ∉ a.names with
      | some c => .error ⟨c⟩
      | none => .ok (f.truth v) := by
  induction f with
  | atom c =>
    rw [eval, letters_atom, List.find?_singleton]
    cases hget : a.get? c with
    | none => rw [if_pos (decide_eq_true (Assignment.get?_eq_none_iff.mp hget))]
    | some b =>
      have hc : c ∈ a.names := Assignment.mem_names_iff.mpr ⟨b, hget⟩
      have hb : v c = b := hv (c, b) (Assignment.get?_eq_some_iff.mp hget)
      rw [if_neg (by simpa using hc), truth_atom, hb]
  | neg f ih =>
    rw [eval, ih, letters_neg]
    cases f.letters.find? fun c => c ∉ a.names <;> rfl
  | bin op l r ihl ihr =>
    rw [eval, ihl, ihr, letters_bin, List.find?_append, truth_bin]
    -- a leaf of the left operand comes before those of the right one
    cases l.letters.find? fun c => c ∉ a.names with
    | some c => rfl
    | none => cases r.letters.find? fun c => c ∉ a.names <;> rfl

theorem find?_letters_eq_none_iff {a : Assignment} {f : Formula} :
    (f.letters.find? fun c => c ∉ a.names) = none ↔ ∀ c ∈ f.vars, c ∈ a.names := by
  simp

theorem evaluatesTo_eval (a : Assignment) (f : Formula) : f.EvaluatesTo a (f.eval a) where
  ok_iff := by
    rw [eval_eq_find? Assignment.valuation_fst, ← find?_letters_eq_none_iff]
    cases f.letters.find? fun c => c ∉ a.names <;> simp
  value := by
    intro hall v hv
    rw [eval_eq_find? hv, find?_letters_eq_none_iff.mpr hall]
  blame := by
    intro us c vs hf hus hc
    have hfirst : (f.letters.find? fun c => c ∉ a.names) = some c := by
      refine List.find?_eq_some_iff_append.mpr ⟨decide_eq_true hc, us, vs, hf, fun d hd => ?_⟩
      simpa using hus d hd
    rw [eval_eq_find? Assignment.valuation_fst, hfirst]

/-- **Assignments that agree on the variables of a formula agree on the formula.** -/
theorem eval_congr {a a' : Assignment} {f : Formula} (h : ∀ c ∈ f.letters, a.get? c = a'.get? c) :
    f.eval a = f.eval a' := by
  induction f with
  | atom c => rw [eval, eval, h c (List.mem_singleton.mpr rfl)]
  | neg f ih => rw [eval, eval, ih h]
  | bin op l r ihl ihr =>
    rw [eval, eval, ihl fun c hc => h c (List.mem_append_left _ hc),
      ihr fun c hc => h c (List.mem_append_right _ hc)]

end Formula

/-- **What evaluating a formula comes to**, under any assignment; and that it depends on the
variables of the formula only, be it on their values or on which of them have none. -/
theorem eval_evaluatesTo (a : Assignment) (f : Formula) :
    f.EvaluatesTo a (f.eval a) ∧
      (∀ cs, a ∈ (Names.ofList cs).assignments → ∀ c, c ∈ a.names ↔ c ∈ cs) ∧
      ∀ a' : Assignment, (∀ c ∈ f.vars, ∀ b, (c, b) ∈ a.toList ↔ (c, b) ∈ a'.toList) →
        f.eval a = f.eval a' := by
  refine ⟨f.evaluatesTo_eval a, fun cs ha c => ?_, fun a' h => ?_⟩
  · rw [Names.names_of_mem_assignments ha]
    exact Names.mem_ofList
  · refine Formula.eval_congr fun c hc => Option.ext fun b => ?_
    rw [Assignment.get?_eq_some_iff, Assignment.get?_eq_some_iff]
    exact h c (Formula.mem_vars.mpr hc) b

/-- A false conjunct does not save a conjunction from variables without a value, and of two such
variables the one on the left is blamed.  Values of other variables make no difference.  Where all
variables have a value, each connective has its own: of a false and a true operand only the
conjunction is false, and of a true and a false one only the disjunction is true. -/
theorem eval_evaluatesTo_of_false_conjunct :
    let a := (Names.ofList ['A']).assignment 1
    let a' := (Names.ofList ['D', 'A']).assignment 2
    let f : Formula := .bin .and (.atom 'A') (.bin .implies (.atom 'C') (.neg (.atom 'B')))
    a.toList = [('A', false)] ∧ a'.toList = [('A', false), ('D', true)] ∧
      f.eval a = .error ⟨'C'⟩ ∧ f.eval a = f.eval a' ∧
      (Formula.bin .and (.atom 'A') (.atom 'D')).eval a' = .ok false ∧
      (Formula.bin .or (.atom 'A') (.atom 'D')).eval a' = .ok true ∧
      (Formula.bin .implies (.atom 'A') (.atom 'D')).eval a' = .ok true ∧
      (Formula.bin .and (.atom 'D') (.atom 'A')).eval a' = .ok false ∧
      (Formula.bin .or (.atom 'D') (.atom 'A')).eval a' = .ok true ∧
      (Formula.bin .implies (.atom 'D') (.atom 'A')).eval a' = .ok false := by
  intro a a' f
  have ha : a.toList = [('A', false)] := rfl
  have ha' : a'.toList = [('A', false), ('D', true)] := rfl
  obtain ⟨hf, -, hagree⟩ := eval_evaluatesTo a f
  -- what a formula in these two variables comes to
  have hvalue : ∀ g : Formula, (∀ c ∈ g.letters, c = 'A' ∨ c = 'D') →
      g.eval a' = .ok (g.truth fun c => c = 'D') := by
    intro g hg
    have hvars : ∀ c ∈ g.vars, c ∈ a'.names := by
      intro c hc
      rcases hg c (Formula.mem_vars.mp hc) with rfl | rfl <;> decide
    refine (eval_evaluatesTo a' g).1.value hvars _ ?_
    rw [ha']
    decide
  refine ⟨ha, ha', ?_, ?_, hvalue _ (by simp), hvalue _ (by simp), hvalue _ (by simp),
    hvalue _ (by simp), hvalue _ (by simp), hvalue _ (by simp)⟩
  · exact hf.blame ['A'] 'C' ['B'] rfl (List.forall_mem_singleton.mpr (by decide)) (by decide)
  · refine hagree a' fun c hc b => ?_
    have hD : c ≠ 'D' := by
      rintro rfl
      exact absurd hc (by decide)
    rw [ha, ha']
    simp [hD]

end TruthTables
