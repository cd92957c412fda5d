import TruthTables.Formula.Basic

/-!
# Assignments

An assignment gives truth values to finitely many variables.  Its entries are
sorted by name, so a variable is looked up by halving the range of entries where
it can be.

## Main definitions

* `Assignment` — entries of name and value, in ascending order of name.
* `Assignment.get?` — the value of a variable, if it has one.
* `Assignment.text` — how an assignment is written, as in `{A: T, B: F}`.
-/

namespace TruthTables

/-- Truth values for finitely many variables. -/
@[ext] structure Assignment where
  /-- The variables with their values, the smallest name first. -/
  entries : Array (Char × Bool)
  /-- No variable comes twice, and the order is that of code points. -/
  ascending : entries.toList.Pairwise (·.1 < ·.1)
  deriving DecidableEq

namespace Assignment

/-- The variables with their values, in order. -/
def toList (a : Assignment) : List (Char × Bool) := a.entries.toList

/-- The number of variables that have a value. -/
def size (a : Assignment) : Nat := a.entries.size

/-- No variable has a value. -/
def isEmpty (a : Assignment) : Bool := a.entries.isEmpty

/-- Looks a name up among the entries from index `low` up to, but without, index
`high`.  The entry in the middle decides which half to go on with. -/
def search (entries : Array (Char × Bool)) (name : Char) (low high : Nat)
    (h : high ≤ entries.size) : Option Bool :=
  if hlt : low < high then
    let middle := (low + high) / 2
    let entry := entries[middle]
    if entry.1 = name then some entry.2
    else if entry.1 < name then search entries name (middle + 1) high h
    else search entries name low middle (by omega)
  else none
termination_by high - low

/-- The value of a variable, if it has one. -/
def get? (a : Assignment) (name : Char) : Option Bool :=
  search a.entries name 0 a.entries.size (Nat.le_refl _)

/-- How one variable and its value are written. -/
def entryText (entry : Char × Bool) : Text := [entry.1, ':', ' ', truthGlyph entry.2]

/-- How an assignment is written: in braces, its entries separated by commas. -/
def text (a : Assignment) : Text :=
  '{' :: List.intercalate [',', ' '] (a.toList.map entryText) ++ ['}']

end Assignment

end TruthTables
