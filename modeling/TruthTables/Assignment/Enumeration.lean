import TruthTables.Assignment.Basic

/-!
# Enumerating assignments

The assignments of `n` variables are numbered from `0` to `2 ^ n - 1`.  A number
stands for the assignment that its binary digits spell, the first variable on
the most significant one, where the digit `0` means true.  So the first
assignment makes every variable true, the last one makes every variable false,
and the last variable changes fastest.

## Main definitions

* `Names.assignmentCount` — the number of assignments of some variables.
* `Names.assignment i` — the assignment with number `i`.
* `Names.assignments` — all of them in order.
-/

namespace TruthTables

namespace Names

/-- The number of assignments of some variables. -/
def assignmentCount (names : Names) : Nat := Nat.pow 2 names.size

/-- The entries of the assignment with number `i`: the digit of a variable is as
many places from the right as there are variables after it. -/
def entries : List Char → Nat → List (Char × Bool)
  | [], _ => []
  | c :: cs, i => (c, !i.testBit cs.length) :: entries cs i

@[simp] theorem entries_nil (i : Nat) : entries [] i = [] := rfl

@[simp] theorem entries_cons (c : Char) (cs : List Char) (i : Nat) :
    entries (c :: cs) i = (c, !i.testBit cs.length) :: entries cs i := rfl

@[simp] theorem map_fst_entries (cs : List Char) (i : Nat) : (entries cs i).map (·.1) = cs := by
  induction cs with
  | nil => rfl
  | cons c cs ih => rw [entries_cons, List.map_cons, ih]

theorem pairwise_entries {cs : List Char} (h : cs.Pairwise (· < ·)) (i : Nat) :
    (entries cs i).Pairwise (·.1 < ·.1) := by
  rw [← map_fst_entries cs i, List.pairwise_map] at h
  exact h

/-- The assignment with number `i`. -/
def assignment (names : Names) (i : Nat) : Assignment :=
  ⟨(entries names.toList i).toArray, pairwise_entries names.ascending i⟩

@[simp] theorem toList_assignment (names : Names) (i : Nat) :
    (names.assignment i).toList = entries names.toList i := rfl

/-- All assignments of some variables, in order. -/
def assignments (names : Names) : List Assignment :=
  (List.range names.assignmentCount).map names.assignment

@[simp] theorem length_assignments (names : Names) :
    names.assignments.length = names.assignmentCount := by
  simp [assignments]

/-- The second variable changes before the first. -/
example : (ofList ['B', 'A']).assignments.map (·.toList) =
    [[('A', true), ('B', true)], [('A', true), ('B', false)],
      [('A', false), ('B', true)], [('A', false), ('B', false)]] := by decide

end Names

end TruthTables
