/-!
# Text

A text is the list of its characters.  Offsets, positions and widths all count
characters, so a text that is a list makes each of them a statement on lists;
bytes enter only where a text is written out.

## Main definitions

* `Text` — a list of characters.
* `Text.ofNat` — a number in decimal.
* `Text.hex` — a number in lower-case hexadecimal.
-/

namespace TruthTables

/-- A text: its characters in order. -/
abbrev Text := List Char

namespace Text

/-- The decimal form of a number, without leading zeros. -/
def ofNat (n : Nat) : Text := Nat.toDigits 10 n

/-- The hexadecimal form of a number, in lower case and without leading zeros. -/
def hex (n : Nat) : Text := Nat.toDigits 16 n

end Text

end TruthTables
