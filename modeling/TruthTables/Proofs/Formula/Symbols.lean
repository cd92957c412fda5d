import TruthTables.Formula.Grammar
import TruthTables.Formula.Printer
import TruthTables.Proofs.Token.Alphabet

/-!
# What the symbols of a formula determine

The grouping of a formula is the one thing that its symbols do not show.  All
else can be read off them: its written form, its letters, how many nodes it has
and how many of those are operators.  So whatever regroups a formula and keeps
its symbols, as printing and reading it does, keeps all of these.

The other way round, the written form determines the symbols as soon as the
variables are letters.  Then distinct formulas with one written form differ in
their grouping alone.

## Main definitions

* `Formula.nodeCount f` — the number of nodes of `f`.
* `Symbol.spelling s` — how `s` stands in the written form of a formula.
* `Formula.IsLettered f` — all variables of `f` are letters.

## Main results

* `Formula.text_eq_flatMap_spelling` — the written form follows from the symbols.
* `Formula.filterMap_symbolOf?_text` — and the symbols from the written form.
* `Formula.mem_text`, `Formula.trim_text` — what a written form is made of, and that no white
  space is at its ends.
-/

namespace TruthTables

namespace Symbol

/-- How a symbol stands in the written form of a formula: a connective has a
space on either side. -/
def spelling : Symbol → Text
  | atom c => [c]
  | neg => [negationGlyph]
  | op o => [' ', o.glyph, ' ']

end Symbol

namespace Formula

/-- The number of nodes of a formula. -/
def nodeCount : Formula → Nat
  | atom _ => 1
  | neg f => nodeCount f + 1
  | bin _ l r => nodeCount l + nodeCount r + 1

@[simp] theorem nodeCount_atom (c : Char) : nodeCount (atom c) = 1 := rfl

@[simp] theorem nodeCount_neg (f : Formula) : nodeCount (neg f) = nodeCount f + 1 := rfl

@[simp] theorem nodeCount_bin (op : Connective) (l r : Formula) :
    nodeCount (bin op l r) = nodeCount l + nodeCount r + 1 := rfl

/-- All variables of a formula are letters, as they are if it was read from a text. -/
def IsLettered (f : Formula) : Prop := ∀ c ∈ f.letters, IsLetter c

theorem isLettered_atom {c : Char} : (atom c).IsLettered ↔ IsLetter c := by
  simp [IsLettered]

theorem isLettered_neg {f : Formula} : (neg f).IsLettered ↔ f.IsLettered := Iff.rfl

theorem isLettered_bin {op : Connective} {l r : Formula} :
    (bin op l r).IsLettered ↔ l.IsLettered ∧ r.IsLettered := by
  simp only [IsLettered, letters_bin, List.mem_append, or_imp, forall_and]

/-! ### Read off the symbols -/

theorem letters_eq_filterMap_name? (f : Formula) :
    f.letters = f.symbols.filterMap Symbol.name? := by
  induction f with
  | atom c => rfl
  | neg f ih => rw [letters_neg, ih]; rfl
  | bin op l r ihl ihr =>
    rw [letters_bin, symbols_bin, List.filterMap_append, ihl, ihr]
    rfl

theorem operatorCount_eq_countP (f : Formula) :
    f.operatorCount = f.symbols.countP Symbol.isOperator := by
  induction f with
  | atom c => rfl
  | neg f ih => rw [operatorCount_neg, symbols_neg, List.countP_cons_of_pos rfl, ih]
  | bin op l r ihl ihr =>
    rw [operatorCount_bin, symbols_bin, List.countP_append, List.countP_cons_of_pos rfl, ihl, ihr]
    omega

theorem nodeCount_eq_length_symbols (f : Formula) : f.nodeCount = f.symbols.length := by
  induction f with
  | atom c => rfl
  | neg f ih => rw [nodeCount_neg, symbols_neg, List.length_cons, ih]
  | bin op l r ihl ihr =>
    rw [nodeCount_bin, symbols_bin, List.length_append, List.length_cons, ihl, ihr]
    omega

/-- Each node of a formula comes once in the list of its sub-formulas. -/
theorem length_postorder (f : Formula) : f.postorder.length = f.nodeCount := by
  induction f with
  | atom c => rfl
  | neg f ih => rw [postorder_neg, List.length_append, ih]; rfl
  | bin op l r ihl ihr =>
    rw [postorder_bin, List.length_append, List.length_append, ihl, ihr]
    rfl

/-- **The written form follows from the symbols.**  It does not depend on how they
are grouped. -/
theorem text_eq_flatMap_spelling (f : Formula) : f.text = f.symbols.flatMap Symbol.spelling := by
  induction f with
  | atom c => rfl
  | neg f ih => rw [text_neg, symbols_neg, List.flatMap_cons, ← ih]; rfl
  | bin op l r ihl ihr =>
    rw [text_bin, symbols_bin, List.flatMap_append, List.flatMap_cons, ← ihl, ← ihr]
    rfl

theorem letters_ne_nil (f : Formula) : f.letters ≠ [] := by
  induction f with
  | atom c => simp
  | neg f ih => exact ih
  | bin op l r ihl _ => simp [ihl]

/-! ### Read off the written form -/

/-- **The symbols follow from the written form**, if all variables are letters.
The spaces around a connective are no symbols, and each other character is one. -/
theorem filterMap_symbolOf?_text {f : Formula} (h : f.IsLettered) :
    f.text.filterMap symbolOf? = f.symbols := by
  induction f with
  | atom c =>
    rw [text_atom, List.filterMap_cons_some (symbolOf?_of_isLetter (isLettered_atom.mp h))]
    rfl
  | neg f ih =>
    rw [text_neg, List.filterMap_cons_some symbolOf?_negationGlyph, ih (isLettered_neg.mp h),
      symbols_neg]
  | bin op l r ihl ihr =>
    obtain ⟨hl, hr⟩ := isLettered_bin.mp h
    rw [text_bin, List.filterMap_append, List.filterMap_cons_none rfl,
      List.filterMap_cons_some (symbolOf?_glyph op), List.filterMap_cons_none rfl, ihl hl, ihr hr,
      symbols_bin]

/-- Formulas with one written form differ at most in their grouping. -/
theorem symbols_eq_of_text_eq {f g : Formula} (hf : f.IsLettered) (hg : g.IsLettered)
    (h : f.text = g.text) : f.symbols = g.symbols := by
  rw [← filterMap_symbolOf?_text hf, h, filterMap_symbolOf?_text hg]

/-- **What a written form is made of**: symbols, and the spaces around connectives. -/
theorem mem_text {f : Formula} (h : f.IsLettered) {c : Char} (hc : c ∈ f.text) :
    c = ' ' ∨ (symbolOf? c).isSome = true := by
  rw [text_eq_flatMap_spelling, List.mem_flatMap] at hc
  obtain ⟨s, hs, hc⟩ := hc
  cases s with
  | atom d =>
    obtain rfl := List.mem_singleton.mp hc
    have hletter : c ∈ f.letters := by
      rw [letters_eq_filterMap_name?]
      exact List.mem_filterMap.mpr ⟨.atom c, hs, rfl⟩
    exact .inr (by rw [symbolOf?_of_isLetter (h c hletter)]; rfl)
  | neg =>
    obtain rfl := List.mem_singleton.mp hc
    exact .inr rfl
  | op o =>
    simp only [Symbol.spelling, List.mem_cons, List.not_mem_nil, or_false] at hc
    rcases hc with rfl | rfl | rfl
    · exact .inl rfl
    · exact .inr (by rw [symbolOf?_glyph]; rfl)
    · exact .inl rfl

/-- A written form has nothing in it that belongs to no formula. -/
theorem isForeign_eq_false_of_mem_text {f : Formula} (h : f.IsLettered) :
    ∀ c ∈ f.text, isForeign c = false := by
  intro c hc
  rcases mem_text h hc with rfl | hsymbol
  · rfl
  · rw [isForeign, Option.isNone_eq_false_iff.mpr hsymbol, Bool.and_false]

/-! ### The ends of the written form -/

theorem exists_text_eq_cons {f : Formula} (h : f.IsLettered) :
    ∃ c t, f.text = c :: t ∧ isBlank c = false := by
  induction f with
  | atom c => exact ⟨c, [], rfl, isBlank_eq_false_of_isLetter (isLettered_atom.mp h)⟩
  | neg f _ => exact ⟨negationGlyph, f.text, rfl, rfl⟩
  | bin op l r ihl _ =>
    obtain ⟨c, t, ht, hc⟩ := ihl (isLettered_bin.mp h).1
    exact ⟨c, _, by rw [text_bin, ht, List.cons_append], hc⟩

theorem exists_text_eq_concat {f : Formula} (h : f.IsLettered) :
    ∃ t c, f.text = t ++ [c] ∧ isBlank c = false := by
  induction f with
  | atom c => exact ⟨[], c, rfl, isBlank_eq_false_of_isLetter (isLettered_atom.mp h)⟩
  | neg f ih =>
    obtain ⟨t, c, ht, hc⟩ := ih (isLettered_neg.mp h)
    exact ⟨negationGlyph :: t, c, by rw [text_neg, ht, List.cons_append], hc⟩
  | bin op l r _ ihr =>
    obtain ⟨t, c, ht, hc⟩ := ihr (isLettered_bin.mp h).2
    exact ⟨l.text ++ ' ' :: op.glyph :: ' ' :: t, c, by rw [text_bin, ht]; simp, hc⟩

/-- **There is nothing to trim off a written form.** -/
theorem trim_text {f : Formula} (h : f.IsLettered) : f.text.trim = f.text := by
  obtain ⟨c, t, hhead, hc⟩ := exists_text_eq_cons h
  obtain ⟨u, d, hlast, hd⟩ := exists_text_eq_concat h
  have hstart : f.text.trimStart = f.text := by
    rw [hhead, Text.trimStart_cons, if_neg (by simp [hc])]
  rw [Text.trim, hstart, hlast, Text.trimEnd_append_singleton, if_neg (by simp [hd])]

end Formula

end TruthTables
