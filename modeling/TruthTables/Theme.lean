import TruthTables.Text.Basic

/-!
# Colors

A piece of text is colored by a terminal's control sequences before and after
it.  A sequence begins with the escape character and a bracket and ends with the
letter `m`.

## Main definitions

* `Rgb` — a color.
* `paint`, `paintBold` — a text in a color, and one that is bold as well.
* `Theme`, `theme` — which part of the output has which color.
-/

namespace TruthTables

/-- A color by its three parts. -/
structure Rgb where
  /-- How red it is. -/
  red : Nat
  /-- How green it is. -/
  green : Nat
  /-- How blue it is. -/
  blue : Nat
  deriving DecidableEq, Repr

/-- The control sequence with these parameters. -/
def controlSequence (parameters : List Nat) : Text :=
  '\x1b' :: '[' :: List.intercalate [';'] (parameters.map Text.ofNat) ++ ['m']

/-- Turns the color of what follows to `c`. -/
def Rgb.foreground (c : Rgb) : Text := controlSequence [38, 2, c.red, c.green, c.blue]

/-- A text in a color; after it the usual color is restored. -/
def paint (c : Rgb) (t : Text) : Text := c.foreground ++ t ++ controlSequence [39]

/-- A bold text in a color; after it everything is reset. -/
def paintBold (c : Rgb) (t : Text) : Text :=
  c.foreground ++ controlSequence [1] ++ t ++ controlSequence [0]

/-- The colors of the parts of the output. -/
structure Theme where
  /-- The formula above a table. -/
  title : Rgb
  /-- The lines of a table. -/
  border : Rgb
  /-- The headers of the columns. -/
  header : Rgb
  /-- The value true. -/
  truth : Rgb
  /-- The value false. -/
  falsity : Rgb
  /-- The line that a report is about. -/
  subject : Rgb
  /-- The message of a report. -/
  error : Rgb
  deriving DecidableEq, Repr

/-- The colors in use. -/
def theme : Theme where
  title := ⟨137, 180, 250⟩
  border := ⟨108, 112, 134⟩
  header := ⟨249, 226, 175⟩
  truth := ⟨166, 227, 161⟩
  falsity := ⟨243, 139, 168⟩
  subject := ⟨108, 112, 134⟩
  error := ⟨243, 139, 168⟩

end TruthTables
