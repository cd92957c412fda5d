import TruthTables.Token.Basic
import TruthTables.Text.Blank

/-!
# Scanning a text into tokens

A scanner stands at a place in a text.  One scan reads tokens, skipping white
space, until the text ends or a character comes up that is neither a symbol nor
white space.  Such a character ends the scan: its tokens are given up, and the
scanner is left just past the character, from where the next scan goes on.

## Main definitions

* `BadCharacter` — a character that belongs to no formula, and its offset.
* `Scanner` — a place in a text: what is left, and how many characters came before.
* `Scanner.scan` — one scan: its outcome, and the scanner it leaves.
* `scan t` — the tokens of a whole text.
* `Scanner.scans` — the outcomes of scanning again and again.
-/

namespace TruthTables

/-- A character that is neither a symbol nor white space. -/
structure BadCharacter where
  /-- The character. -/
  char : Char
  /-- The number of characters before it. -/
  offset : Nat
  deriving DecidableEq, Repr

/-- What one scan comes to. -/
abbrev Scan := Except BadCharacter (List Token)

/-- A place in a text. -/
structure Scanner where
  /-- The number of characters before the place. -/
  offset : Nat
  /-- The characters after it. -/
  rest : Text
  deriving DecidableEq, Repr

namespace Scanner

/-- The scanner at the start of a text. -/
def ofText (t : Text) : Scanner := ⟨0, t⟩

/-- One scan of the text `t`, whose first character has the offset `n`. -/
def scanFrom : Nat → Text → Scan × Scanner
  | n, [] => (.ok [], ⟨n, []⟩)
  | n, c :: t =>
    if isBlank c then scanFrom (n + 1) t
    else match symbolOf? c with
      | none => (.error ⟨c, n⟩, ⟨n + 1, t⟩)
      | some s =>
        let (outcome, left) := scanFrom (n + 1) t
        (outcome.map (⟨s, n⟩ :: ·), left)

@[simp] theorem scanFrom_nil (n : Nat) : scanFrom n [] = (.ok [], ⟨n, []⟩) := rfl

theorem scanFrom_blank {n : Nat} {c : Char} {t : Text} (h : isBlank c = true) :
    scanFrom n (c :: t) = scanFrom (n + 1) t := by
  rw [scanFrom, if_pos h]

theorem scanFrom_bad {n : Nat} {c : Char} {t : Text} (h : isBlank c = false)
    (hs : symbolOf? c = none) : scanFrom n (c :: t) = (.error ⟨c, n⟩, ⟨n + 1, t⟩) := by
  simp [scanFrom, h, hs]

theorem scanFrom_symbol {n : Nat} {c : Char} {t : Text} {s : Symbol} (h : isBlank c = false)
    (hs : symbolOf? c = some s) :
    scanFrom n (c :: t) =
      ((scanFrom (n + 1) t).1.map (⟨s, n⟩ :: ·), (scanFrom (n + 1) t).2) := by
  simp [scanFrom, h, hs]

/-- One scan from where the scanner stands. -/
def scan (s : Scanner) : Scan × Scanner := scanFrom s.offset s.rest

/-- The outcomes of `n` scans, each from where the one before it stopped. -/
def scans : Nat → Scanner → List Scan
  | 0, _ => []
  | n + 1, s => s.scan.1 :: scans n s.scan.2

@[simp] theorem scans_zero (s : Scanner) : scans 0 s = [] := rfl

@[simp] theorem scans_succ (n : Nat) (s : Scanner) :
    scans (n + 1) s = s.scan.1 :: scans n s.scan.2 := rfl

end Scanner

/-- The tokens of a text, or its first bad character. -/
def scan (t : Text) : Scan := (Scanner.ofText t).scan.1

end TruthTables
