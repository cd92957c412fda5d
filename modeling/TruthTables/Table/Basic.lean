import TruthTables.Formula.Printer
import TruthTables.Assignment.Enumeration

/-!
# Truth tables

A truth table has a column for each variable of a formula and for each of its
sub-formulas, and a row for each assignment of the variables.  A column is known
by its header, the written form of its formula, so no two columns share one: of
several formulas with one written form the first is kept.

## Main definitions

* `Table` — a truth table.
* `Table.headers`, `Table.columnAt`, `Table.column?` — the headers, the values of a column, and
  those under a header.
* `selectColumns` — the columns for some variables and sub-formulas.
-/

namespace TruthTables

/-- A truth table. -/
structure Table where
  /-- The line that the table belongs to, trimmed. -/
  expression : Text
  /-- The variables. -/
  vars : Names
  /-- The formulas of the columns. -/
  columns : List Formula
  /-- The values, a row for each assignment and a value for each column. -/
  rows : List (List Bool)
  deriving DecidableEq

namespace Table

/-- The headers of the columns. -/
def headers (t : Table) : List Text := t.columns.map Formula.text

/-- The assignments that the rows belong to. -/
def assignments (t : Table) : List Assignment := t.vars.assignments

/-- The values in the column with the number `j`, counted from 0. -/
def columnAt (t : Table) (j : Nat) : List Bool := t.rows.map fun row => row.getD j false

/-- The values in the column with exactly this header, if there is one. -/
def column? (t : Table) (header : Text) : Option (List Bool) :=
  (t.headers.idxOf? header).map t.columnAt

end Table

/-- The columns for some variables and sub-formulas: the variables first, and of
the formulas with one written form only the first. -/
def selectColumns (vars : List Char) (formulas : List Formula) : List Formula :=
  (vars.map Formula.atom ++ formulas).eraseDupsBy fun f g => f.text == g.text

end TruthTables
