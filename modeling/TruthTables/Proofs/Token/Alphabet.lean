import TruthTables.Token.Basic
import TruthTables.Text.Blank

/-!
# The alphabet of formulas

Every character is exactly one of three things to a scanner: white space, the
glyph of one symbol, or a character that belongs to no formula.  Variables are
written as the letters `A` to `Z`, and those are the only names that a text can
give a variable; a formula built otherwise may have any name at its leaves.

## Main definitions

* `IsLetter c` — `c` can name a variable in a text.
* `isForeign c` — `c` is neither white space nor a symbol.
* `isOperatorGlyph c` — `c` is the sign of negation or of a connective.
* `InAlphabet c` — `c` is white space, a letter or a sign.

## Main results

* `isBlank_eq_false_of_symbolOf?` — no symbol is white space.
* `any_isOperator_symbolOf?` — the operators are the four signs.
* `isForeign_eq_false_iff` — what is foreign is what the alphabet does not have.
-/

namespace TruthTables

/-- A character that can name a variable in a text. -/
def IsLetter (c : Char) : Prop := 'A' ≤ c ∧ c ≤ 'Z'

instance : DecidablePred IsLetter := fun c => inferInstanceAs (Decidable ('A' ≤ c ∧ c ≤ 'Z'))

/-- A character that belongs to no formula: neither white space nor a symbol. -/
def isForeign (c : Char) : Bool := !isBlank c && (symbolOf? c).isNone

/-- The sign of negation or of a connective. -/
def isOperatorGlyph (c : Char) : Bool :=
  c ∈ [negationGlyph, Connective.and.glyph, Connective.or.glyph, Connective.implies.glyph]

/-- A character of the alphabet in which formulas are written. -/
def InAlphabet (c : Char) : Prop := isBlank c = true ∨ IsLetter c ∨ isOperatorGlyph c = true

/-! ### Letters -/

theorem symbolOf?_of_isLetter {c : Char} (h : IsLetter c) : symbolOf? c = some (.atom c) :=
  if_pos h

/-- A letter is not white space: all white space comes before `A` or after `Z`. -/
theorem isBlank_eq_false_of_isLetter {c : Char} (h : IsLetter c) : isBlank c = false := by
  obtain ⟨hlow, hhigh⟩ := h
  have hlow : 65 ≤ c.toNat := hlow
  have hhigh : c.toNat ≤ 90 := hhigh
  simp only [isBlank, Bool.or_eq_false_iff, Bool.and_eq_false_iff, decide_eq_false_iff_not,
    beq_eq_false_iff_ne]
  omega

/-! ### Symbols and their glyphs -/

/-- Only a letter names a variable in a text. -/
theorem isLetter_of_symbolOf? {c d : Char} (h : symbolOf? c = some (.atom d)) :
    c = d ∧ IsLetter c := by
  by_cases hc : 'A' ≤ c ∧ c ≤ 'Z'
  · rw [symbolOf?_of_isLetter hc] at h
    cases h
    exact ⟨rfl, hc⟩
  · -- the four signs are no variables
    rw [symbolOf?, if_neg hc] at h
    repeat' split at h
    all_goals simp at h

/-- **No symbol is white space**, so skipping white space never loses a symbol. -/
theorem isBlank_eq_false_of_symbolOf? {c : Char} {s : Symbol} (h : symbolOf? c = some s) :
    isBlank c = false := by
  cases s with
  | atom d => exact isBlank_eq_false_of_isLetter (isLetter_of_symbolOf? h).2
  | neg => rw [← glyph_of_symbolOf? h]; rfl
  | op o => rw [← glyph_of_symbolOf? h]; cases o <;> rfl

theorem symbolOf?_of_isBlank {c : Char} (h : isBlank c = true) : symbolOf? c = none := by
  cases hs : symbolOf? c with
  | none => rfl
  | some s => rw [isBlank_eq_false_of_symbolOf? hs] at h; cases h

@[simp] theorem symbolOf?_negationGlyph : symbolOf? negationGlyph = some .neg := rfl

@[simp] theorem symbolOf?_glyph (o : Connective) : symbolOf? o.glyph = some (.op o) := by
  cases o <;> rfl

/-- **The four signs are the operators**: a character is one of them exactly if
the symbol that it is, is negation or a connective. -/
theorem any_isOperator_symbolOf? (c : Char) :
    (symbolOf? c).any Symbol.isOperator = isOperatorGlyph c := by
  rw [Bool.eq_iff_iff, Option.any_eq_true]
  simp only [isOperatorGlyph, decide_eq_true_eq, List.mem_cons, List.not_mem_nil, or_false]
  constructor
  · rintro ⟨s, hs, hop⟩
    rw [← glyph_of_symbolOf? hs]
    cases s with
    | atom d => cases hop
    | neg => exact Or.inl rfl
    | op o => cases o <;> simp [Symbol.glyph]
  · rintro (rfl | rfl | rfl | rfl)
    · exact ⟨.neg, rfl, rfl⟩
    · exact ⟨.op .and, rfl, rfl⟩
    · exact ⟨.op .or, rfl, rfl⟩
    · exact ⟨.op .implies, rfl, rfl⟩

theorem isSome_symbolOf?_iff {c : Char} :
    (symbolOf? c).isSome = true ↔ IsLetter c ∨ isOperatorGlyph c = true := by
  rw [← any_isOperator_symbolOf?]
  constructor
  · intro h
    obtain ⟨s, hs⟩ := Option.isSome_iff_exists.mp h
    cases s with
    | atom d => exact .inl (isLetter_of_symbolOf? hs).2
    | neg => exact .inr (by rw [hs]; rfl)
    | op o => exact .inr (by rw [hs]; rfl)
  · rintro (h | h)
    · rw [symbolOf?_of_isLetter h]
      rfl
    · obtain ⟨s, hs, -⟩ := (Option.any_eq_true _ _).mp h
      rw [hs]
      rfl

/-- **What is foreign to formulas is what their alphabet does not have.** -/
theorem isForeign_eq_false_iff {c : Char} : isForeign c = false ↔ InAlphabet c := by
  rw [isForeign, InAlphabet, Bool.and_eq_false_iff, Bool.not_eq_false', ← isSome_symbolOf?_iff,
    Option.isNone_eq_false_iff]

/-- The names that the characters of a text give to variables are its letters. -/
theorem bind_name?_symbolOf? (c : Char) :
    (symbolOf? c).bind Symbol.name? = if IsLetter c then some c else none := by
  by_cases hc : IsLetter c
  · rw [symbolOf?_of_isLetter hc, if_pos hc]
    rfl
  · rw [if_neg hc]
    cases hs : symbolOf? c with
    | none => rfl
    | some s =>
      cases s with
      | atom d => exact absurd (isLetter_of_symbolOf? hs).2 hc
      | neg => rfl
      | op o => rfl

end TruthTables
