import TruthTables.Proofs.Formula.Reader
import TruthTables.Proofs.Token.Scanning

/-!
# Reading what has been written

The written form of a formula can always be read, because it is made of symbols
of the formula and of spaces.  What is read has the same symbols, and hence the
same text, variables and number of nodes; but it is grouped by precedence.  So it
is the formula that was written exactly if that one follows precedence.

## Main results

* `parse_eq_ok_iff` — **what reading a text comes to.**
* `mem_letters_of_parse`, `operatorCount_of_parse` — what a text shows of the
  formula that is read from it.
* `exists_parse_text_eq_ok` — the written form of a formula can be read.
-/

namespace TruthTables

theorem parse_eq_ok_iff_exists_scan {t : Text} {p : Parsed} :
    parse t = .ok p ↔ ∃ ts, scan t = .ok ts ∧ parseTokens ts = .ok p := by
  unfold parse
  constructor
  · intro h
    cases hscan : scan t with
    | error e => simp [hscan] at h
    | ok ts =>
      simp only [hscan] at h
      cases hread : parseTokens ts with
      | error e =>
        rw [hread] at h
        cases h
      | ok q =>
        rw [hread] at h
        cases h
        exact ⟨ts, rfl, hread⟩
  · rintro ⟨ts, hscan, hread⟩
    simp only [hscan, hread]
    rfl

/-- A text is read as the formula at which a reader arrives that takes its tokens one by one. -/
theorem parse_eq_ok_of_read {t : Text} {ts : List Token} {f : Formula} (hscan : scan t = .ok ts)
    (hread : Reader.start.read ts = .ok ⟨f, f.postorder.reverse⟩) :
    parse t = .ok ⟨f, f.postorder⟩ := by
  refine parse_eq_ok_iff_exists_scan.mpr ⟨ts, hscan, ?_⟩
  rw [parseTokens_eq_read, hread, Except.map, List.reverse_reverse]

/-- **What reading a text comes to**: the formula that follows precedence and has
the symbols of the text, if nothing in the text is foreign and there is such a
formula, with its sub-formulas in post-order. -/
theorem parse_eq_ok_iff {t : Text} {p : Parsed} :
    parse t = .ok p ↔
      (∀ c ∈ t, isForeign c = false) ∧ p.root.FollowsPrecedence ∧
        p.root.symbols = t.filterMap symbolOf? ∧ p.inventory = p.root.postorder := by
  rw [parse_eq_ok_iff_exists_scan]
  constructor
  · rintro ⟨ts, hscan, hread⟩
    rw [← map_symbol_of_scan hscan]
    exact ⟨(scan_eq_ok_iff.mp hscan).1, parseTokens_eq_ok_iff.mp hread⟩
  · rintro ⟨hall, hread⟩
    have hscan : scan t = .ok (tokensFrom 0 t) := scan_eq_ok_iff.mpr ⟨hall, rfl⟩
    rw [← map_symbol_of_scan hscan] at hread
    exact ⟨tokensFrom 0 t, hscan, parseTokens_eq_ok_iff.mpr hread⟩

/-- The variables of a formula that has been read are the letters of the text. -/
theorem mem_letters_of_parse {t : Text} {p : Parsed} (h : parse t = .ok p) {c : Char} :
    c ∈ p.root.letters ↔ IsLetter c ∧ c ∈ t := by
  obtain ⟨-, -, hsymbols, -⟩ := parse_eq_ok_iff.mp h
  rw [Formula.letters_eq_filterMap_name?, hsymbols, List.mem_filterMap]
  constructor
  · rintro ⟨s, hs, hname⟩
    obtain ⟨d, hd, hsymbol⟩ := List.mem_filterMap.mp hs
    cases s with
    | atom a =>
      obtain rfl := Option.some.inj hname
      obtain ⟨rfl, hletter⟩ := isLetter_of_symbolOf? hsymbol
      exact ⟨hletter, hd⟩
    | neg => cases hname
    | op o => cases hname
  · rintro ⟨hletter, hc⟩
    exact ⟨.atom c, List.mem_filterMap.mpr ⟨c, hc, symbolOf?_of_isLetter hletter⟩, rfl⟩

theorem isLettered_of_parse {t : Text} {p : Parsed} (h : parse t = .ok p) : p.root.IsLettered :=
  fun _ hc => ((mem_letters_of_parse h).mp hc).1

/-- The operators of a formula that has been read are the signs in the text. -/
theorem operatorCount_of_parse {t : Text} {p : Parsed} (h : parse t = .ok p) :
    p.root.operatorCount = t.countP isOperatorGlyph := by
  obtain ⟨-, -, hsymbols, -⟩ := parse_eq_ok_iff.mp h
  rw [Formula.operatorCount_eq_countP, hsymbols, countP_isOperator_filterMap]

/-- The written form of a formula whose variables are letters can be read. -/
theorem exists_parse_text_eq_ok {f : Formula} (hf : f.IsLettered) : ∃ p, parse f.text = .ok p := by
  have hscan := scan_eq_ok_iff.mpr ⟨Formula.isForeign_eq_false_of_mem_text hf, rfl⟩
  have hsymbols := (map_symbol_of_scan hscan).trans (Formula.filterMap_symbolOf?_text hf)
  obtain ⟨p, hp⟩ := exists_parseTokens_eq_ok hsymbols
  exact ⟨p, parse_eq_ok_iff_exists_scan.mpr ⟨_, hscan, hp⟩⟩

/-- **Reading the written form of any formula** succeeds, and keeps everything of
the formula but its grouping: the text, the variables and the number of nodes.
The grouping is kept exactly if it follows precedence. -/
theorem parse_text_regroups {f : Formula} (hf : ∀ c ∈ f.letters, IsLetter c) :
    ∃ p, parse f.text = .ok p ∧ p.root.text = f.text ∧ p.root.vars = f.vars ∧
      p.inventory.length = f.nodeCount ∧ (p.root = f ↔ f.FollowsPrecedence) := by
  obtain ⟨p, hp⟩ := exists_parse_text_eq_ok hf
  obtain ⟨-, hprec, hsymbols, hinventory⟩ := parse_eq_ok_iff.mp hp
  rw [Formula.filterMap_symbolOf?_text hf] at hsymbols
  refine ⟨p, hp, ?_, ?_, ?_, ?_⟩
  · rw [Formula.text_eq_flatMap_spelling, hsymbols, ← Formula.text_eq_flatMap_spelling]
  · rw [Formula.vars, Formula.letters_eq_filterMap_name?, hsymbols,
      ← Formula.letters_eq_filterMap_name?, ← Formula.vars]
  · rw [hinventory, Formula.length_postorder, Formula.nodeCount_eq_length_symbols, hsymbols,
      ← Formula.nodeCount_eq_length_symbols]
  · constructor
    · intro hroot
      rw [← hroot]
      exact hprec
    · intro hfprec
      exact eq_of_symbols_eq hprec hfprec hsymbols

/-- A negated implication is written like an implication of a negation, and read
as that. -/
theorem parse_text_regroups_negated_implication :
    let f : Formula := .neg (.bin .implies (.atom 'A') (.bin .or (.atom 'Z') (.atom 'A')))
    (∀ c ∈ f.letters, IsLetter c) ∧
      ∃ p, parse f.text = .ok p ∧ p.root.text = f.text ∧ p.root.vars = f.vars ∧
        p.inventory.length = 6 ∧ p.root ≠ f := by
  intro f
  have hf : f.IsLettered := by
    simp only [f, Formula.isLettered_neg, Formula.isLettered_bin, Formula.isLettered_atom]
    decide
  obtain ⟨p, hp, htext, hvars, hlength, hroot⟩ := parse_text_regroups hf
  exact ⟨hf, p, hp, htext, hvars, hlength, fun h => absurd (hroot.mp h) (by decide)⟩

end TruthTables
