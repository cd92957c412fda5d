import TruthTables.Assignment.Enumeration

/-!
# Stepping through assignments

A cursor stands before one of the assignments of some variables, or after the
last.  It hands them out one by one, can pass over any number of them in one
move, and always knows how many are left.  A session with a cursor can also put
a copy of it aside and go back to it as often as it likes.

## Main definitions

* `Cursor` — the variables, and the number of the assignment that comes next.
* `Cursor.next`, `Cursor.skip`, `Cursor.takeRest` — handing out assignments.
* `Request`, `Answer`, `Session` — what can be asked of a cursor, what is
  answered, and a cursor with a copy put aside.
* `Session.run` — the answers to a list of requests.
-/

namespace TruthTables

/-- A place in the enumeration of the assignments of some variables. -/
@[ext] structure Cursor where
  /-- The variables. -/
  names : Names
  /-- The number of assignments already passed. -/
  passed : Nat
  /-- A cursor stands at the end at the latest. -/
  passed_le : passed ≤ names.assignmentCount
  deriving DecidableEq

namespace Cursor

/-- The cursor before the first assignment. -/
def start (names : Names) : Cursor := ⟨names, 0, Nat.zero_le _⟩

/-- The cursor after the last assignment. -/
def exhausted (c : Cursor) : Cursor := ⟨c.names, c.names.assignmentCount, Nat.le_refl _⟩

/-- The number of assignments that are left. -/
def remaining (c : Cursor) : Nat := c.names.assignmentCount - c.passed

/-- Hands out the next assignment, if there is one. -/
def next (c : Cursor) : Option Assignment × Cursor :=
  if h : c.passed < c.names.assignmentCount then
    (some (c.names.assignment c.passed), ⟨c.names, c.passed + 1, h⟩)
  else (none, c)

/-- Passes over `n` assignments and hands out the one after them.  If there are
not so many, the cursor ends after the last. -/
def skip (c : Cursor) (n : Nat) : Option Assignment × Cursor :=
  if h : c.passed + n < c.names.assignmentCount then
    (some (c.names.assignment (c.passed + n)), ⟨c.names, c.passed + n + 1, h⟩)
  else (none, c.exhausted)

/-- Hands out all assignments that are left. -/
def takeRest (c : Cursor) : List Assignment × Cursor :=
  ((List.range' c.passed c.remaining).map c.names.assignment, c.exhausted)

/-- To pass over nothing and hand out an assignment is to hand out the next. -/
theorem skip_zero (c : Cursor) : c.skip 0 = c.next := by
  simp only [skip, next, Nat.add_zero]
  split
  · rfl
  · next h =>
    have hpassed : c.passed = c.names.assignmentCount := Nat.le_antisymm c.passed_le (by omega)
    exact Prod.ext rfl (Cursor.ext rfl hpassed.symm)

/-- What is left has the length that the cursor tells. -/
theorem length_takeRest (c : Cursor) : c.takeRest.1.length = c.remaining := by
  simp [takeRest]

end Cursor

/-- What can be asked of a cursor. -/
inductive Request
  /-- The next assignment. -/
  | next
  /-- The assignment after the next `count`. -/
  | skip (count : Nat)
  /-- How many are left. -/
  | length
  /-- To put a copy aside. -/
  | save
  /-- To go back to the copy put aside. -/
  | restore
  /-- All that are left. -/
  | rest
  deriving DecidableEq, Repr

/-- What is answered to a request. -/
inductive Answer
  /-- An assignment, or none because there are no more. -/
  | assignment (found : Option Assignment)
  /-- A number of assignments. -/
  | length (count : Nat)
  /-- Nothing but that it is done. -/
  | done
  /-- A list of assignments. -/
  | assignments (all : List Assignment)
  deriving DecidableEq

/-- A cursor and the copy of it put aside. -/
structure Session where
  /-- The cursor in use. -/
  cursor : Cursor
  /-- The copy. -/
  saved : Cursor
  deriving DecidableEq

namespace Session

/-- A session that begins with a fresh cursor, which is also put aside. -/
def start (names : Names) : Session := ⟨.start names, .start names⟩

/-- Answers one request. -/
def step (s : Session) : Request → Answer × Session
  | .next => (.assignment s.cursor.next.1, { s with cursor := s.cursor.next.2 })
  | .skip n => (.assignment (s.cursor.skip n).1, { s with cursor := (s.cursor.skip n).2 })
  | .length => (.length s.cursor.remaining, s)
  | .save => (.done, { s with saved := s.cursor })
  | .restore => (.done, { s with cursor := s.saved })
  | .rest => (.assignments s.cursor.takeRest.1, { s with cursor := s.cursor.takeRest.2 })

/-- Answers a list of requests: each answer, with the number of assignments left
after it. -/
def run (s : Session) : List Request → List (Answer × Nat)
  | [] => []
  | r :: rs => ((s.step r).1, (s.step r).2.cursor.remaining) :: run (s.step r).2 rs

@[simp] theorem run_nil (s : Session) : run s [] = [] := rfl

@[simp] theorem run_cons (s : Session) (r : Request) (rs : List Request) :
    run s (r :: rs) = ((s.step r).1, (s.step r).2.cursor.remaining) :: run (s.step r).2 rs := rfl

end Session

end TruthTables
