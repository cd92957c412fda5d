import TruthTables.Text.Blank

/-!
# Lines

A text falls into lines at its line feeds and at nothing else.  A carriage
return in front of a line feed stays with its line, where trimming removes it;
a carriage return elsewhere, a form feed or a Unicode line separator ends no
line.  The lines worth reading are those with something on them, each with the
number it has among all lines, from 1.

## Main definitions

* `Text.pieces t` — what stands between the line feeds of `t`.
* `NumberedLine` — a trimmed line and its number.
* `Text.filledLines t` — the lines of `t` that are not blank.
-/

namespace TruthTables

/-- A line without the white space at its ends, and its number, counted from 1. -/
structure NumberedLine where
  /-- The number of the line among all lines of its text, blank ones included. -/
  number : Nat
  /-- What the line says, trimmed. -/
  content : Text
  deriving DecidableEq, Repr

namespace Text

/-- The pieces between the line feeds of a text: one more than there are line
feeds, the last of them empty if the text ends in one. -/
def pieces (t : Text) : List Text := t.splitOn '\n'

@[simp] theorem pieces_nil : pieces [] = [[]] := rfl

/-- A line feed between two texts keeps their pieces apart. -/
theorem pieces_append_newline (a b : Text) : pieces (a ++ '\n' :: b) = pieces a ++ pieces b := by
  rw [pieces, pieces, pieces, List.splitOn_eq_splitOnP, List.splitOn_eq_splitOnP,
    List.splitOn_eq_splitOnP, List.splitOnP_append_cons a b (by simp)]

/-- The lines of a list of pieces that are not blank, when the first piece has
the number `n`. -/
def numbered : Nat → List Text → List NumberedLine
  | _, [] => []
  | n, p :: ps =>
    match p.trim with
    | [] => numbered (n + 1) ps
    | c :: t => ⟨n, c :: t⟩ :: numbered (n + 1) ps

@[simp] theorem numbered_nil (n : Nat) : numbered n [] = [] := rfl

theorem numbered_append (n : Nat) (ps qs : List Text) :
    numbered n (ps ++ qs) = numbered n ps ++ numbered (n + ps.length) qs := by
  induction ps generalizing n with
  | nil => rfl
  | cons p ps ih =>
    have h : n + (ps.length + 1) = n + 1 + ps.length := by omega
    rw [List.cons_append, numbered, numbered, List.length_cons, h]
    split <;> simp [ih]

/-- The lines of a text that are not blank. -/
def filledLines (t : Text) : List NumberedLine := numbered 1 (pieces t)

end Text

end TruthTables
