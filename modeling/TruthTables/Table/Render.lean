import TruthTables.Table.Basic
import TruthTables.Text.Utf8
import TruthTables.Theme

/-!
# Printing tables

A table is printed as aligned text: a line of headers, a line that separates
them from the values, and a line for each row, with bars between the columns.
Every column is as wide as its widest entry and its entries stand at the left.
Color is put on after the alignment, so it never shifts anything.

## Main definitions

* `Style` — whether to color, and whether to print the formula above the table.
* `Table.widths` — the widths of the columns.
* `Table.lines` — the lines of the printed table, each as the pieces it is
  written in.
* `Table.render`, `Table.renderWithin` — the printed table, and as much of it as
  fits into a limited place.
-/

namespace TruthTables

/-- How to print. -/
structure Style where
  /-- Whether to color what is printed. -/
  color : Bool
  /-- Whether to print the formula above its table. -/
  title : Bool
  deriving DecidableEq, Repr

/-- A text in a color, if there is to be color. -/
def Style.paint (s : Style) (c : Rgb) (t : Text) : Text :=
  if s.color then TruthTables.paint c t else t

/-- A bold text in a color, if there is to be color. -/
def Style.paintBold (s : Style) (c : Rgb) (t : Text) : Text :=
  if s.color then TruthTables.paintBold c t else t

namespace Table

/-- The entry for a truth value. -/
def cell (b : Bool) : Text := [truthGlyph b]

/-- The width of a column: that of its widest entry, header included. -/
def columnWidth (header : Text) (values : List Bool) : Nat :=
  (values.map fun b => (cell b).length).foldr max header.length

/-- The widths of the columns. -/
def widths (t : Table) : List Nat := t.headers.zipIdx.map fun x => columnWidth x.1 (t.columnAt x.2)

/-- As every value has a width of 1, only the header makes a difference, unless it is empty. -/
theorem columnWidth_eq (header : Text) (values : List Bool) :
    columnWidth header values = if values = [] then header.length else max 1 header.length := by
  induction values with
  | nil => rfl
  | cons b bs ih =>
    have hcell : columnWidth header (b :: bs) = max 1 (columnWidth header bs) := rfl
    rw [hcell, ih, if_neg (List.cons_ne_nil b bs)]
    split <;> omega

/-- A line of cells between bars, in the pieces in which it is written. -/
def rowPieces (s : Style) (cells : List Text) : List Text :=
  [s.paint theme.border "| ".toList,
    List.intercalate (s.paint theme.border " | ".toList) cells,
    s.paint theme.border " |".toList]

/-- The cell of a header in a column of some width. -/
def headerCell (s : Style) (header : Text) (width : Nat) : Text :=
  s.paintBold theme.header (header.rightpad width ' ')

/-- The cell of a value in a column of some width. -/
def valueCell (s : Style) (b : Bool) (width : Nat) : Text :=
  s.paint (if b then theme.truth else theme.falsity) ((cell b).rightpad width ' ')

/-- The line that separates the headers from the values. -/
def separator (widths : List Nat) : Text :=
  "|-".toList ++ List.intercalate "-|-".toList (widths.map fun w => List.replicate w '-') ++
    "-|".toList

/-- The formula above the table, if it is to be printed. -/
def titleLines (s : Style) (t : Table) : List (List Text) :=
  if s.title then [[s.paint theme.title t.expression]] else []

/-- The lines of the printed table, each as the pieces in which it is written. -/
def lines (s : Style) (t : Table) : List (List Text) :=
  t.titleLines s ++
    [rowPieces s (t.headers.zipWith (headerCell s) t.widths),
      [s.paint theme.border (separator t.widths)]] ++
    t.rows.map fun row => rowPieces s (row.zipWith (valueCell s) t.widths)

/-- The pieces in which the table is written; every line ends in a line feed. -/
def pieces (s : Style) (t : Table) : List Text := (t.lines s).flatMap (· ++ [['\n']])

/-- The printed table. -/
def render (s : Style) (t : Table) : Text := (t.pieces s).flatten

/-- Prints the table where there is room for `room` bytes. -/
def renderWithin (room : Nat) (s : Style) (t : Table) : Written := writeWithin room (t.pieces s)

end Table

end TruthTables
