import TruthTables.Token.Basic

/-!
# Precedence

A formula is written without parentheses, so its grouping has to follow from the
precedence of its operators: negation binds tightest, then conjunction, then
disjunction, then implication, and a connective repeated at one level groups to
the left.  Here is the sequence of symbols of a formula, and which formulas are
grouped as their symbols say.

## Main definitions

* `Formula.symbols f` — the symbols of `f` in the order in which they are written.
* `Connective.level`, `Formula.level` — how loosely a connective, or the
  outermost connective of a formula, binds.
* `Formula.FollowsPrecedence f` — every operand in `f` binds tightly enough for
  its place.
-/

namespace TruthTables

/-- How loosely a connective binds: 1 for conjunction, 2 for disjunction, 3 for
implication. -/
def Connective.level : Connective → Nat
  | and => 1
  | or => 2
  | implies => 3

namespace Formula

/-- The symbols of a formula in the order in which they are written. -/
def symbols : Formula → List Symbol
  | atom c => [.atom c]
  | neg f => .neg :: symbols f
  | bin op l r => symbols l ++ .op op :: symbols r

@[simp] theorem symbols_atom (c : Char) : symbols (atom c) = [.atom c] := rfl

@[simp] theorem symbols_neg (f : Formula) : symbols (neg f) = .neg :: symbols f := rfl

@[simp] theorem symbols_bin (op : Connective) (l r : Formula) :
    symbols (bin op l r) = symbols l ++ .op op :: symbols r := rfl

/-- How loosely the outermost connective of a formula binds; 0 if there is none. -/
def level : Formula → Nat
  | atom _ => 0
  | neg _ => 0
  | bin op _ _ => op.level

@[simp] theorem level_atom (c : Char) : level (atom c) = 0 := rfl

@[simp] theorem level_neg (f : Formula) : level (neg f) = 0 := rfl

@[simp] theorem level_bin (op : Connective) (l r : Formula) : level (bin op l r) = op.level := rfl

/-- Every operand binds tightly enough for its place: the operand of a negation
has no connective of its own outside, a left operand binds at least as tightly
as the connective after it, and a right operand binds more tightly than the
connective before it. -/
def FollowsPrecedence : Formula → Prop
  | atom _ => True
  | neg f => f.level = 0 ∧ FollowsPrecedence f
  | bin op l r =>
    l.level ≤ op.level ∧ r.level < op.level ∧ FollowsPrecedence l ∧ FollowsPrecedence r

@[simp] theorem followsPrecedence_atom (c : Char) : FollowsPrecedence (atom c) := trivial

@[simp] theorem followsPrecedence_neg {f : Formula} :
    FollowsPrecedence (neg f) ↔ f.level = 0 ∧ FollowsPrecedence f := Iff.rfl

@[simp] theorem followsPrecedence_bin {op : Connective} {l r : Formula} :
    FollowsPrecedence (bin op l r) ↔
      l.level ≤ op.level ∧ r.level < op.level ∧ FollowsPrecedence l ∧ FollowsPrecedence r :=
  Iff.rfl

/-- Whether a formula follows precedence can be read off it. -/
def decideFollowsPrecedence : (f : Formula) → Decidable f.FollowsPrecedence
  | atom _ => .isTrue trivial
  | neg f =>
    have := decideFollowsPrecedence f
    inferInstanceAs (Decidable (f.level = 0 ∧ f.FollowsPrecedence))
  | bin op l r =>
    have := decideFollowsPrecedence l
    have := decideFollowsPrecedence r
    inferInstanceAs (Decidable (l.level ≤ op.level ∧ r.level < op.level ∧
      l.FollowsPrecedence ∧ r.FollowsPrecedence))

instance (f : Formula) : Decidable f.FollowsPrecedence := decideFollowsPrecedence f

end Formula

end TruthTables
