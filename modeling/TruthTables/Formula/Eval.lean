import TruthTables.Assignment.Basic

/-!
# Evaluating formulas

The value of a formula under an assignment.  Both operands of a connective are
evaluated, the left one first, whether or not the left one already settles the
value; so the first variable without a value, read from left to right, is always
found.

## Main definitions

* `Unbound` — a variable that the assignment gives no value.
* `Formula.eval` — the value of a formula under an assignment.
-/

namespace TruthTables

/-- A variable without a value. -/
structure Unbound where
  /-- The name of the variable. -/
  name : Char
  deriving DecidableEq, Repr

namespace Formula

/-- The value of a formula under an assignment. -/
def eval (a : Assignment) : Formula → Except Unbound Bool
  | atom c =>
    match a.get? c with
    | none => .error ⟨c⟩
    | some b => .ok b
  | neg f =>
    match eval a f with
    | .error e => .error e
    | .ok b => .ok !b
  | bin op l r =>
    match eval a l with
    | .error e => .error e
    | .ok b =>
      match eval a r with
      | .error e => .error e
      | .ok c => .ok (op.apply b c)

/-- If every letter of a formula has the value that `v` gives it, so has the formula. -/
theorem eval_eq_truth {a : Assignment} {v : Char → Bool} {f : Formula}
    (h : ∀ c ∈ f.letters, a.get? c = some (v c)) : f.eval a = .ok (f.truth v) := by
  induction f with
  | atom c => simp [eval, h c (List.mem_singleton.mpr rfl)]
  | neg f ih => simp [eval, ih h]
  | bin op l r ihl ihr =>
    simp [eval, ihl fun c hc => h c (List.mem_append_left _ hc),
      ihr fun c hc => h c (List.mem_append_right _ hc)]

end Formula

end TruthTables
