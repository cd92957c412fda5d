import TruthTables.Formula.Basic

/-!
# The written form of a formula

A formula is written without parentheses: the sign of negation directly before
its operand, a connective between its operands with a space on either side.
Different formulas can therefore have the same written form; among those that
follow the precedence of the connectives the form is unique.

## Main definitions

* `Formula.text f` — the written form of `f`.
-/

namespace TruthTables

namespace Formula

/-- The written form of a formula. -/
def text : Formula → Text
  | atom c => [c]
  | neg f => negationGlyph :: text f
  | bin op l r => text l ++ ' ' :: op.glyph :: ' ' :: text r

@[simp] theorem text_atom (c : Char) : text (atom c) = [c] := rfl

@[simp] theorem text_neg (f : Formula) : text (neg f) = negationGlyph :: text f := rfl

@[simp] theorem text_bin (op : Connective) (l r : Formula) :
    text (bin op l r) = text l ++ ' ' :: op.glyph :: ' ' :: text r := rfl

theorem text_ne_nil (f : Formula) : f.text ≠ [] := by
  cases f <;> simp

/-- The written form does not show how operands are grouped. -/
example : text (neg (bin .and (atom 'A') (atom 'B'))) = text (bin .and (neg (atom 'A')) (atom 'B')) :=
  rfl

end Formula

end TruthTables
