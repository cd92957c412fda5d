import TruthTables.Names

/-!
# Propositional formulas

Formulas are built from variables by negation and three binary connectives.  A
variable is named by a single character; the written form of a formula uses the
letters `A` to `Z`, but nothing here depends on that.

## Main definitions

* `Connective`, `Formula` — the binary connectives and the formulas.
* `Formula.truth v f` — the truth value of `f` when `v` gives the variables theirs.
* `Formula.letters`, `Formula.vars` — the names at the leaves, from left to right,
  and the set of them.
* `Formula.postorder` — all sub-formula occurrences, operands before the whole.
-/

namespace TruthTables

/-- The sign of negation. -/
def negationGlyph : Char := '~'

/-- The letter for a truth value. -/
def truthGlyph (b : Bool) : Char := if b then 'T' else 'F'

/-- A binary connective. -/
inductive Connective
  /-- Conjunction. -/
  | and
  /-- Disjunction. -/
  | or
  /-- Material implication. -/
  | implies
  deriving DecidableEq, Repr

namespace Connective

/-- The sign of a connective. -/
def glyph : Connective → Char
  | and => '∧'
  | or => '∨'
  | implies => '→'

/-- The truth table of a connective, as an evaluation applies it. -/
def apply : Connective → Bool → Bool → Bool
  | and, a, b => a && b
  | or, a, b => a || b
  | implies, a, b => !a || b

@[simp] theorem apply_and (a b : Bool) : apply and a b = (a && b) := rfl

@[simp] theorem apply_or (a b : Bool) : apply or a b = (a || b) := rfl

@[simp] theorem apply_implies (a b : Bool) : apply implies a b = (!a || b) := rfl

end Connective

/-- A propositional formula. -/
inductive Formula
  /-- A variable. -/
  | atom (name : Char)
  /-- A negated formula. -/
  | neg (operand : Formula)
  /-- Two formulas under a binary connective. -/
  | bin (op : Connective) (left right : Formula)
  deriving DecidableEq, Repr

namespace Formula

/-- The truth value of a formula when `v` gives the variables theirs.  Each connective means
what is usual, whatever table an evaluation applies for it. -/
def truth (v : Char → Bool) : Formula → Bool
  | atom c => v c
  | neg f => !truth v f
  | bin .and l r => truth v l && truth v r
  | bin .or l r => truth v l || truth v r
  | bin .implies l r => !truth v l || truth v r

@[simp] theorem truth_atom (v : Char → Bool) (c : Char) : truth v (atom c) = v c := rfl

@[simp] theorem truth_neg (v : Char → Bool) (f : Formula) : truth v (neg f) = !truth v f := rfl

/-- **The table of a connective gives it its meaning.** -/
@[simp] theorem truth_bin (v : Char → Bool) (op : Connective) (l r : Formula) :
    truth v (bin op l r) = op.apply (truth v l) (truth v r) := by
  cases op <;> rfl

/-- The names at the leaves of a formula, from left to right. -/
def letters : Formula → List Char
  | atom c => [c]
  | neg f => letters f
  | bin _ l r => letters l ++ letters r

@[simp] theorem letters_atom (c : Char) : letters (atom c) = [c] := rfl

@[simp] theorem letters_neg (f : Formula) : letters (neg f) = letters f := rfl

@[simp] theorem letters_bin (op : Connective) (l r : Formula) :
    letters (bin op l r) = letters l ++ letters r := rfl

/-- The variables of a formula. -/
def vars (f : Formula) : Names := Names.ofList f.letters

@[simp] theorem mem_vars {f : Formula} {c : Char} : c ∈ f.vars ↔ c ∈ f.letters :=
  Names.mem_ofList

/-- The number of negations and connectives of a formula. -/
def operatorCount : Formula → Nat
  | atom _ => 0
  | neg f => operatorCount f + 1
  | bin _ l r => operatorCount l + operatorCount r + 1

@[simp] theorem operatorCount_atom (c : Char) : operatorCount (atom c) = 0 := rfl

@[simp] theorem operatorCount_neg (f : Formula) : operatorCount (neg f) = operatorCount f + 1 := rfl

@[simp] theorem operatorCount_bin (op : Connective) (l r : Formula) :
    operatorCount (bin op l r) = operatorCount l + operatorCount r + 1 := rfl

/-- Every occurrence of a sub-formula: those of the left operand, those of the
right one, and then the formula itself. -/
def postorder : Formula → List Formula
  | atom c => [atom c]
  | neg f => postorder f ++ [neg f]
  | bin op l r => postorder l ++ postorder r ++ [bin op l r]

@[simp] theorem postorder_atom (c : Char) : postorder (atom c) = [atom c] := rfl

@[simp] theorem postorder_neg (f : Formula) : postorder (neg f) = postorder f ++ [neg f] := rfl

@[simp] theorem postorder_bin (op : Connective) (l r : Formula) :
    postorder (bin op l r) = postorder l ++ postorder r ++ [bin op l r] := rfl

/-- Two valuations that agree on the letters of a formula give it the same value. -/
theorem truth_congr {v w : Char → Bool} {f : Formula} (h : ∀ c ∈ f.letters, v c = w c) :
    f.truth v = f.truth w := by
  induction f with
  | atom c => exact h c (List.mem_singleton.mpr rfl)
  | neg f ih => rw [truth_neg, truth_neg, ih h]
  | bin op l r ihl ihr =>
    rw [truth_bin, truth_bin, ihl fun c hc => h c (List.mem_append_left _ hc),
      ihr fun c hc => h c (List.mem_append_right _ hc)]

end Formula

end TruthTables
