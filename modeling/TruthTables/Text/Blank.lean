import TruthTables.Text.Basic

/-!
# White space

The characters with the Unicode property `White_Space`, and removing them from
the two ends of a text.  A scanner skips exactly these characters between
tokens.

## Main definitions

* `isBlank c` — `c` is white space.
* `Text.trimStart`, `Text.trimEnd`, `Text.trim` — a text without the white space
  at its start, at its end, at both.
-/

namespace TruthTables

/-- White space: the twenty-five characters with the property `White_Space`. -/
def isBlank (c : Char) : Bool :=
  let n := c.toNat
  (0x09 ≤ n && n ≤ 0x0D) || n == 0x20 || n == 0x85 || n == 0xA0 || n == 0x1680 ||
    (0x2000 ≤ n && n ≤ 0x200A) || n == 0x2028 || n == 0x2029 || n == 0x202F ||
    n == 0x205F || n == 0x3000

namespace Text

/-- A text without the white space at its start. -/
def trimStart (t : Text) : Text := t.dropWhile isBlank

/-- A text without the white space at its end. -/
def trimEnd (t : Text) : Text := (t.reverse.dropWhile isBlank).reverse

/-- A text without the white space at its two ends. -/
def trim (t : Text) : Text := trimEnd (trimStart t)

@[simp] theorem trimStart_nil : trimStart [] = [] := rfl

theorem trimStart_cons (c : Char) (t : Text) :
    trimStart (c :: t) = if isBlank c then trimStart t else c :: t := by
  simp only [trimStart, List.dropWhile_cons]

@[simp] theorem trimEnd_nil : trimEnd [] = [] := rfl

theorem trimEnd_append_singleton (t : Text) (c : Char) :
    trimEnd (t ++ [c]) = if isBlank c then trimEnd t else t ++ [c] := by
  by_cases h : isBlank c <;> simp [trimEnd, h]

@[simp] theorem trim_nil : trim [] = [] := rfl

/-- The whole class of white space that the core library knows is in the class. -/
theorem isBlank_of_isWhitespace {c : Char} (h : c.isWhitespace = true) : isBlank c = true := by
  simp only [Char.isWhitespace, Bool.or_eq_true, decide_eq_true_eq] at h
  rcases h with ((rfl | rfl) | rfl) | rfl <;> rfl

end Text

end TruthTables
