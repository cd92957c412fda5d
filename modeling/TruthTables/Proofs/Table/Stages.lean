import TruthTables.Proofs.Assignment.Numbers
import TruthTables.Proofs.Table.Outcome

/-!
# Which stage decides

A line can be wrong in several ways at once.  What it comes to is settled by the
first stage that finds fault: a character outside the alphabet comes before
everything else, then the number of different letters, then the number of signs,
then the grammar.  The first three can be told from the characters of the line
alone, without scanning it.

Evaluation comes last and never finds fault.  A line that gets so far has a table, and
each variable of each column has a value in each row.

## Main definitions

* `letterCount t` — the number of different letters in `t`.
* `DecidedByStages t result` — `result` is what a line comes to that says `t`.

## Main results

* `checkLimits_of_scan` — the limits, told from the characters of a text.
* `exists_scan_eq_error`, `exists_scan_eq_ok` — the scan, told from them as well.
* `buildTable_decidedByStages` — **the first stage that finds fault decides.**
-/

namespace TruthTables

/-! ### Counting characters -/

/-- The number of different letters in a text. -/
def letterCount (t : Text) : Nat := (t.filter fun c => IsLetter c).eraseDups.length

section Scan

variable {t : Text} {ts : List Token} (h : scan t = .ok ts)

include h

theorem size_tokenNames_of_scan : (tokenNames ts).size = letterCount t := by
  have hguard : (fun c => (symbolOf? c).bind Symbol.name?) = Option.guard fun c => IsLetter c := by
    funext c
    rw [bind_name?_symbolOf?, Option.guard]
    by_cases hc : IsLetter c <;> simp [hc]
  have hnames : (ts.map Token.symbol).filterMap Symbol.name? = t.filter fun c => IsLetter c := by
    rw [map_symbol_of_scan h, List.filterMap_filterMap, hguard, List.filterMap_eq_filter]
  rw [List.filterMap_map] at hnames
  rw [letterCount, ← hnames, ← Names.size_ofList]
  rfl

theorem operatorTokens_of_scan : operatorTokens ts = t.countP isOperatorGlyph := by
  rw [operatorTokens, ← countP_isOperator_filterMap, ← map_symbol_of_scan h, List.countP_map]
  rfl

/-- **The limits of a text**: they are on its letters and its signs. -/
theorem checkLimits_of_scan :
    checkLimits ts =
      if 3 < letterCount t then .error (.tooManyVariables (letterCount t) 3)
      else if 4 < t.countP isOperatorGlyph then
        .error (.tooManyOperators (t.countP isOperatorGlyph) 4)
      else .ok () := by
  rw [checkLimits, size_tokenNames_of_scan h, operatorTokens_of_scan h]
  rfl

end Scan

/-! ### One stage after the other -/

/-- The first foreign character of a text is where its scan ends. -/
theorem exists_scan_eq_error {t : Text} (h : ∃ c ∈ t, ¬ InAlphabet c) :
    ∃ us c vs, t = us ++ c :: vs ∧ (∀ d ∈ us, InAlphabet d) ∧ ¬ InAlphabet c ∧
      scan t = .error ⟨c, us.length⟩ := by
  cases hforeign : foreignFrom 0 t with
  | none =>
    obtain ⟨c, hc, hnot⟩ := h
    exact absurd (isForeign_eq_false_iff.mp ((foreignFrom_eq_none_iff t 0).mp hforeign c hc)) hnot
  | some e =>
    obtain ⟨us, vs, ht, hus, he, hoffset⟩ := exists_of_foreignFrom_eq_some t 0 e hforeign
    have hscan : scan t = .error e := by rw [scan_eq, scanOutcome, hforeign]
    obtain ⟨c, n⟩ := e
    obtain rfl : n = us.length := by simpa using hoffset
    refine ⟨us, c, vs, ht, fun d hd => isForeign_eq_false_iff.mp (hus d hd), fun hin => ?_, hscan⟩
    rw [isForeign_eq_false_iff.mpr hin] at he
    cases he

/-- A text without foreign characters has tokens, each where its character is. -/
theorem exists_scan_eq_ok {t : Text} (h : ∀ c ∈ t, InAlphabet c) :
    ∃ ts, scan t = .ok ts ∧
      ∀ x ∈ ts, ∃ c, t[x.offset]? = some c ∧ symbolOf? c = some x.symbol := by
  refine ⟨tokensFrom 0 t, ?_, fun x hx => ?_⟩
  · exact scan_eq_ok_iff.mpr ⟨fun c hc => isForeign_eq_false_iff.mpr (h c hc), rfl⟩
  · obtain ⟨i, c, hoffset, hc, hsymbol⟩ := getElem?_of_mem_tokensFrom t 0 x hx
    rw [hoffset, Nat.zero_add]
    exact ⟨c, hc, hsymbol⟩

/-- Every variable of a column has a value in every row. -/
theorem exists_get?_of_mem_columns {line : Text} {table : Table} (h : buildTable line = .ok table)
    {f : Formula} (hf : f ∈ table.columns) {c : Char} (hc : c ∈ f.letters) {a : Assignment}
    (ha : a ∈ table.assignments) : ∃ b, a.get? c = some b := by
  obtain ⟨p, -, -, -, rfl⟩ := buildTable_eq_ok_iff.mp h
  obtain ⟨i, -, rfl⟩ := List.mem_map.mp ha
  exact ⟨_, Names.get?_assignment (Formula.mem_vars_of_mem_columns hf hc) i⟩

/-- No line fails at evaluation. -/
theorem buildTable_ne_unbound (line : Text) (e : Unbound) :
    buildTable line ≠ .error (.unbound e) := by
  intro h
  have houtcome := buildTable_outcome line
  rw [h] at houtcome
  cases houtcome

/-! ### All stages -/

/-- What a line comes to that says `t`, once trimmed.  Of the first four fields, which
are the stages in order, each takes for granted that those before it found no
fault. -/
structure DecidedByStages (t : Text) (result : Except LineError Table) : Prop where
  /-- A character outside the alphabet is blamed, and of several the first. -/
  foreign : (∃ c ∈ t, ¬ InAlphabet c) →
    ∃ us c vs, t = us ++ c :: vs ∧ (∀ d ∈ us, InAlphabet d) ∧ ¬ InAlphabet c ∧
      result = .error (.lexical ⟨c, us.length⟩)
  /-- Too many different letters are blamed with their number. -/
  letters : (∀ c ∈ t, InAlphabet c) → 3 < letterCount t →
    result = .error (.limit (.tooManyVariables (letterCount t) 3))
  /-- Too many signs are blamed with their number. -/
  signs : (∀ c ∈ t, InAlphabet c) → letterCount t ≤ 3 → 4 < t.countP isOperatorGlyph →
    result = .error (.limit (.tooManyOperators (t.countP isOperatorGlyph) 4))
  /-- If the tokens of the text, each where its character is, make no formula, then
  their error is that of the line.  Otherwise there is a table. -/
  grammar : (∀ c ∈ t, InAlphabet c) → letterCount t ≤ 3 → t.countP isOperatorGlyph ≤ 4 →
    ∃ ts, scan t = .ok ts ∧
      (∀ x ∈ ts, ∃ c, t[x.offset]? = some c ∧ symbolOf? c = some x.symbol) ∧
      (∀ e, parseTokens ts = .error e → result = .error (.grammar e)) ∧
      (∀ p, parseTokens ts = .ok p → ∃ table, result = .ok table)
  /-- Evaluation is never blamed. -/
  not_unbound : ∀ e, result ≠ .error (.unbound e)
  /-- In a table every variable of a column has a value in every row. -/
  bound : ∀ table, result = .ok table → ∀ f ∈ table.columns, ∀ c ∈ f.letters,
    ∀ a ∈ table.assignments, ∃ b, a.get? c = some b

/-- **The first stage that finds fault decides** what a line comes to, and if none
does there is a table. -/
theorem buildTable_decidedByStages (line : Text) :
    DecidedByStages line.trim (buildTable line) where
  foreign := by
    intro h
    obtain ⟨us, c, vs, ht, hus, hc, hscan⟩ := exists_scan_eq_error h
    refine ⟨us, c, vs, ht, hus, hc, ?_⟩
    rw [buildTable_eq, hscan]
  letters := by
    intro h hletters
    obtain ⟨ts, hscan, -⟩ := exists_scan_eq_ok h
    have hcheck := checkLimits_of_scan hscan
    rw [if_pos hletters] at hcheck
    simp only [buildTable_eq, hscan, hcheck]
  signs := by
    intro h hletters hsigns
    obtain ⟨ts, hscan, -⟩ := exists_scan_eq_ok h
    have hcheck := checkLimits_of_scan hscan
    rw [if_neg (Nat.not_lt.mpr hletters), if_pos hsigns] at hcheck
    simp only [buildTable_eq, hscan, hcheck]
  grammar := by
    intro h hletters hsigns
    obtain ⟨ts, hscan, hoffsets⟩ := exists_scan_eq_ok h
    have hcheck := checkLimits_of_scan hscan
    rw [if_neg (Nat.not_lt.mpr hletters), if_neg (Nat.not_lt.mpr hsigns)] at hcheck
    refine ⟨ts, hscan, hoffsets, fun e hread => ?_, fun p hread => ?_⟩
    · simp only [buildTable_eq, hscan, hcheck, hread]
    · exact ⟨_, buildTable_eq_ok_of_stages hscan hcheck hread⟩
  not_unbound := buildTable_ne_unbound line
  bound := fun _ h _ hf _ hc _ ha => exists_get?_of_mem_columns h hf hc ha

/-- Four letters are blamed before five signs, and before a misplaced one. -/
theorem buildTable_decidedByStages_of_letters :
    buildTable " ~A~B ∧ ∧ C D~ ".toList = .error (.limit (.tooManyVariables 4 3)) := by
  let line : Text := " ~A~B ∧ ∧ C D~ ".toList
  have halphabet : ∀ c ∈ line.trim, InAlphabet c := by
    have hscan : scan line.trim = .ok (tokensFrom 0 line.trim) := rfl
    exact fun c hc => isForeign_eq_false_iff.mp ((scan_eq_ok_iff.mp hscan).1 c hc)
  have hletters : letterCount line.trim = 4 := by decide
  have hresult := (buildTable_decidedByStages line).letters halphabet (by rw [hletters]; decide)
  rw [hletters] at hresult
  exact hresult

end TruthTables
