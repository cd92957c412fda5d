import TruthTables.Formula.Basic

/-!
# Tokens

The written form of a formula is a sequence of symbols, one character each: the
name of a variable, the sign of negation, the sign of a connective.  A token is
a symbol together with the place where it was read.

## Main definitions

* `Symbol` — what a token stands for; `Symbol.glyph` is how it is written.
* `Token` — a symbol and its offset.
* `position` — the number by which a message names an offset.
* `symbolOf?` — the symbol that a character is in the written form of a formula.
-/

namespace TruthTables

/-- The position that a message gives for an offset: offsets count from 0,
positions from 1. -/
def position (offset : Nat) : Nat := offset + 1

/-- What a token stands for. -/
inductive Symbol
  /-- The variable with this name. -/
  | atom (name : Char)
  /-- Negation. -/
  | neg
  /-- A binary connective. -/
  | op (connective : Connective)
  deriving DecidableEq, Repr

namespace Symbol

/-- The character by which a symbol is written. -/
def glyph : Symbol → Char
  | atom c => c
  | neg => negationGlyph
  | op c => c.glyph

/-- Whether a symbol is negation or a connective.  The kind decides, not the
glyph: a variable may have any name. -/
def isOperator : Symbol → Bool
  | atom _ => false
  | neg => true
  | op _ => true

/-- The name of a variable. -/
def name? : Symbol → Option Char
  | atom c => some c
  | neg => none
  | op _ => none

end Symbol

/-- A symbol and where it was read. -/
structure Token where
  /-- What was read. -/
  symbol : Symbol
  /-- The number of characters before it. -/
  offset : Nat
  deriving DecidableEq, Repr

/-- The symbol that a character is in the written form of a formula, if any:
variables are the letters `A` to `Z`. -/
def symbolOf? (c : Char) : Option Symbol :=
  if 'A' ≤ c ∧ c ≤ 'Z' then some (.atom c)
  else if c = negationGlyph then some .neg
  else if c = Connective.and.glyph then some (.op .and)
  else if c = Connective.or.glyph then some (.op .or)
  else if c = Connective.implies.glyph then some (.op .implies)
  else none

/-- A character that is a symbol is the glyph of that symbol. -/
theorem glyph_of_symbolOf? {c : Char} {s : Symbol} (h : symbolOf? c = some s) : s.glyph = c := by
  simp only [symbolOf?] at h
  split at h
  · cases h; rfl
  split at h
  · next hc => cases h; exact hc.symm
  split at h
  · next hc => cases h; exact hc.symm
  split at h
  · next hc => cases h; exact hc.symm
  split at h
  · next hc => cases h; exact hc.symm
  · cases h

end TruthTables
