import TruthTables.Proofs.Table.WhiteSpace
import TruthTables.Proofs.Text.Margins

/-!
# Reading a line and building its table

A line can be read as a formula in two ways.  Read by itself it is taken as it stands, with
its margins and without any limit.  To build its table it is trimmed first, and its tokens
are held against the limits before they are read.

Trimming moves every offset by the margin and does nothing else to what is scanned, and so
to what is read.  And the limits on tokens are limits on the formula, where the tokens make
one.  So what is read from a line by itself tells what building its table comes to; only where
the tokens make no formula, they have to be looked at for the limits.

## Main definitions

* `BuiltAsRead line read result` — `result` is what building the table of `line` comes to,
  told by what reading it comes to, which is `read`.

## Main results

* `parse_eq_trim` — reading a line, told by reading it trimmed.
* `exists_scan_of_scan_trim` — the limits take no notice of margins.
* `buildTable_eq_limit_iff` — when a limit is blamed, and which.
* `buildTable_builtAsRead` — **building the table of a line agrees with reading the line.**
-/

namespace TruthTables

/-- What building the table of a line comes to, told by what reading the line as it stands
comes to. -/
structure BuiltAsRead (line : Text) (read : Except ParseError Parsed)
    (result : Except LineError Table) : Prop where
  /-- A line that can be read has a table exactly if its formula keeps to both limits. -/
  table : ∀ p, read = .ok p →
    ((∃ table, result = .ok table) ↔ p.root.vars.size ≤ 3 ∧ p.root.operatorCount ≤ 4)
  /-- The columns are chosen among the nodes that were recorded. -/
  columns : ∀ p table, read = .ok p → result = .ok table →
    table.columns = selectColumns p.root.vars.toList p.inventory
  /-- Too many variables of the formula are blamed with their number. -/
  manyVars : ∀ p, read = .ok p → 3 < p.root.vars.size →
    result = .error (.limit (.tooManyVariables p.root.vars.size 3))
  /-- Otherwise too many operators of the formula are blamed with their number. -/
  manyOperators : ∀ p, read = .ok p → p.root.vars.size ≤ 3 → 4 < p.root.operatorCount →
    result = .error (.limit (.tooManyOperators p.root.operatorCount 4))
  /-- The bad character that ends the scan is blamed, at its offset less the margin. -/
  lexical : ∀ e, read = .error (.lexical e) →
    line.margin ≤ e.offset ∧ result = .error (.lexical ⟨e.char, e.offset - line.margin⟩)
  /-- If the tokens make no formula, a limit that they exceed is blamed.  If they exceed none,
  then the same grammar error is, with each offset less the margin. -/
  grammar : ∀ e, read = .error (.grammar e) →
    ∃ ts, scan line = .ok ts ∧
      ((∃ l, result = .error (.limit l)) ↔ 3 < (tokenNames ts).size ∨ 4 < operatorTokens ts) ∧
      (∀ l, result = .error (.limit l) ↔ checkLimits ts = .error l) ∧
      ((∃ l, result = .error (.limit l)) ∨
        ∃ e', result = .error e' ∧
          (ParseError.grammar e).toLineError.Displaced (fun n m => n = m + line.margin) e')

/-! ### Reading a trimmed line -/

/-- **Reading a line is reading it trimmed**, with the margin added to the offset of an error. -/
theorem parse_eq_trim (line : Text) :
    parse line = (parse line.trim).mapError (.map id (· + line.margin)) := by
  rw [parse_of_marks (p := Renaming.refl) line.marks_eq_map_margin, Renaming.toFun_refl]
  cases parse line.trim with
  | error e => rfl
  | ok p => exact congrArg Except.ok p.rename_id

theorem parse_trim_of_parse {line : Text} {p : Parsed} (h : parse line = .ok p) :
    parse line.trim = .ok p := by
  rw [parse_eq_trim] at h
  cases htrim : parse line.trim with
  | error e =>
    rw [htrim] at h
    cases h
  | ok q =>
    rw [htrim] at h
    exact congrArg Except.ok (Except.ok.inj h)

theorem exists_parse_trim_eq_error {line : Text} {e : ParseError} (h : parse line = .error e) :
    ∃ e', parse line.trim = .error e' ∧ e = e'.map id (· + line.margin) := by
  rw [parse_eq_trim] at h
  cases htrim : parse line.trim with
  | error e' =>
    rw [htrim] at h
    exact ⟨e', rfl, (Except.error.inj h).symm⟩
  | ok q =>
    rw [htrim] at h
    cases h

/-- Where a text is no formula, it is the scan that fails or the reading of the tokens. -/
theorem parse_eq_error_iff {t : Text} {e : ParseError} :
    parse t = .error e ↔
      (∃ b, e = .lexical b ∧ scan t = .error b) ∨
      ∃ g ts, e = .grammar g ∧ scan t = .ok ts ∧ parseTokens ts = .error g := by
  cases hscan : scan t with
  | error b =>
    simp only [parse, hscan]
    constructor
    · rintro ⟨⟩
      exact .inl ⟨b, rfl, rfl⟩
    · rintro (⟨b', rfl, ⟨⟩⟩ | ⟨g, ts, -, ⟨⟩, -⟩)
      rfl
  | ok ts =>
    simp only [parse, hscan]
    constructor
    · intro h
      cases hread : parseTokens ts with
      | error g =>
        rw [hread] at h
        obtain rfl := Except.error.inj h
        exact .inr ⟨g, ts, rfl, rfl, hread⟩
      | ok p =>
        rw [hread] at h
        cases h
    · rintro (⟨b, -, ⟨⟩⟩ | ⟨g, ts', rfl, ⟨⟩, hread⟩)
      rw [hread]
      rfl

/-! ### The limits of a line with margins -/

/-- The tokens of a line with margins, and the limits, which take no notice of margins. -/
theorem exists_scan_of_scan_trim {line : Text} {ts : List Token}
    (h : scan line.trim = .ok ts) :
    ∃ us, scan line = .ok us ∧ checkLimits us = checkLimits ts := by
  refine ⟨ts.map (Token.map Renaming.refl (· + line.margin)), ?_, ?_⟩
  · rw [scan_of_marks (p := Renaming.refl) line.marks_eq_map_margin, h]
    rfl
  · exact checkLimits_map Renaming.refl.injective _ ts

/-- Tokens fail the check exactly if they exceed a limit. -/
theorem exists_checkLimits_eq_error_iff {ts : List Token} :
    (∃ l, checkLimits ts = .error l) ↔ 3 < (tokenNames ts).size ∨ 4 < operatorTokens ts := by
  have hok : checkLimits ts = .ok () ↔ (tokenNames ts).size ≤ 3 ∧ operatorTokens ts ≤ 4 :=
    checkLimits_eq_ok_iff
  cases hcheck : checkLimits ts with
  | error l =>
    rw [hcheck] at hok
    have hnot : ¬ ((tokenNames ts).size ≤ 3 ∧ operatorTokens ts ≤ 4) := fun h => by
      cases hok.mpr h
    exact iff_of_true ⟨l, rfl⟩ (by omega)
  | ok u =>
    obtain ⟨hvars, hoperators⟩ := hok.mp hcheck
    refine iff_of_false ?_ (by omega)
    rintro ⟨l, ⟨⟩⟩

/-! ### Building the table -/

/-- Tokens that exceed a limit are what a line is blamed for first. -/
theorem buildTable_eq_limit_iff {line : Text} {ts : List Token} {l : LimitError}
    (hscan : scan line.trim = .ok ts) :
    buildTable line = .error (.limit l) ↔ checkLimits ts = .error l := by
  constructor
  · intro h
    have houtcome := buildTable_outcome line
    rw [h] at houtcome
    cases houtcome with
    | limit hscan' hcheck =>
      obtain rfl := Except.ok.inj (hscan'.symm.trans hscan)
      exact hcheck
  · intro h
    exact buildTable_eq_of_outcome (.limit hscan h)

/-- A limit that the formula of a line exceeds. -/
theorem buildTable_of_checkLimits {line : Text} {p : Parsed} {l : LimitError}
    (h : parse line = .ok p)
    (hcheck : ∀ ts, p.root.symbols = ts.map Token.symbol → checkLimits ts = .error l) :
    buildTable line = .error (.limit l) := by
  obtain ⟨ts, hscan, hread⟩ := parse_eq_ok_iff_exists_scan.mp (parse_trim_of_parse h)
  obtain ⟨-, hsymbols, -⟩ := parseTokens_eq_ok_iff.mp hread
  exact (buildTable_eq_limit_iff hscan).mpr (hcheck ts hsymbols)

/-- An error with larger offsets. -/
theorem displaced_map_add (e : LineError) (d : Nat) :
    (e.map id (· + d)).Displaced (fun n m => n = m + d) e := by
  have h : (e.map id (· + d)).Displaced (fun n m => n = m + d) (e.map id id) :=
    displaced_map fun _ _ => rfl
  rwa [LineError.map_id] at h

/-- **Building the table of a line agrees with reading the line.** -/
theorem buildTable_builtAsRead (line : Text) :
    BuiltAsRead line (parse line) (buildTable line) where
  table := by
    intro p h
    have htrim := parse_trim_of_parse h
    constructor
    · rintro ⟨table, htable⟩
      obtain ⟨q, hq, hvars, hoperators, -⟩ := buildTable_eq_ok_iff.mp htable
      obtain rfl := Except.ok.inj (htrim.symm.trans hq)
      exact ⟨hvars, hoperators⟩
    · rintro ⟨hvars, hoperators⟩
      exact ⟨_, buildTable_eq_ok_iff.mpr ⟨p, htrim, hvars, hoperators, rfl⟩⟩
  columns := by
    intro p table h htable
    obtain ⟨q, hq, -, -, rfl⟩ := buildTable_eq_ok_iff.mp htable
    obtain rfl := Except.ok.inj ((parse_trim_of_parse h).symm.trans hq)
    obtain ⟨-, hprec, -, hinventory⟩ := parse_eq_ok_iff.mp h
    rw [hinventory, Formula.selectColumns_postorder hprec (isLettered_of_parse h)]
    rfl
  manyVars := by
    intro p h hvars
    refine buildTable_of_checkLimits h fun ts hsymbols => ?_
    rw [checkLimits_of_symbols hsymbols, if_pos hvars]
  manyOperators := by
    intro p h hvars hoperators
    refine buildTable_of_checkLimits h fun ts hsymbols => ?_
    rw [checkLimits_of_symbols hsymbols, if_neg (Nat.not_lt.mpr hvars), if_pos hoperators]
  lexical := by
    intro e h
    obtain ⟨e', htrim, he⟩ := exists_parse_trim_eq_error h
    rcases parse_eq_error_iff.mp htrim with ⟨b, rfl, hscan⟩ | ⟨g, ts, rfl, -, -⟩
    · obtain rfl := ParseError.lexical.inj he
      rw [buildTable_eq_of_outcome (.lexical hscan)]
      simp [BadCharacter.map]
    · cases he
  grammar := by
    intro e h
    obtain ⟨e', htrim, he⟩ := exists_parse_trim_eq_error h
    rcases parse_eq_error_iff.mp htrim with ⟨b, rfl, -⟩ | ⟨g, ts, rfl, hscan, hread⟩
    · cases he
    obtain rfl := ParseError.grammar.inj he
    obtain ⟨us, hus, hlimits⟩ := exists_scan_of_scan_trim hscan
    have hresult : ∀ l, buildTable line = .error (.limit l) ↔ checkLimits us = .error l := by
      intro l
      rw [hlimits]
      exact buildTable_eq_limit_iff hscan
    refine ⟨us, hus, ?_, hresult, ?_⟩
    · rw [← exists_checkLimits_eq_error_iff]
      exact exists_congr hresult
    · cases hcheck : checkLimits ts with
      | error l => exact .inl ⟨l, (buildTable_eq_limit_iff hscan).mpr hcheck⟩
      | ok u =>
        exact .inr ⟨.grammar g, buildTable_eq_of_outcome (.grammar hscan hcheck hread),
          displaced_map_add (.grammar g) line.margin⟩

/-- A second sign of conjunction is blamed in a line with a margin of two characters. -/
theorem buildTable_builtAsRead_of_misplaced_conjunction :
    let line : Text := "\t A ∧ ∧ B".toList
    parse line = .error (.grammar (.variableExpected (some 6))) ∧
      buildTable line = .error (.grammar (.variableExpected (some 4))) := by
  intro line
  let ts : List Token := [⟨.atom 'A', 2⟩, ⟨.op .and, 4⟩, ⟨.op .and, 6⟩, ⟨.atom 'B', 8⟩]
  have hscan : scan line = .ok ts := rfl
  have hread : parseTokens ts = .error (.variableExpected (some 6)) := by
    rw [parseTokens_eq_read]
    rfl
  have hparse : parse line = .error (.grammar (.variableExpected (some 6))) :=
    parse_eq_error_iff.mpr (.inr ⟨_, ts, rfl, hscan, hread⟩)
  obtain ⟨us, hus, hexceeds, -, hresult⟩ := (buildTable_builtAsRead line).grammar _ hparse
  obtain rfl := Except.ok.inj (hscan.symm.trans hus)
  have hfits : ¬ (3 < (tokenNames ts).size ∨ 4 < operatorTokens ts) := by decide
  rcases hresult with hlimit | ⟨e, he, hdisplaced⟩
  · exact absurd (hexceeds.mp hlimit) hfits
  · refine ⟨hparse, ?_⟩
    have hmargin : line.margin = 2 := by decide
    rw [hmargin] at hdisplaced
    cases hdisplaced with
    | @expected n m h =>
      obtain rfl : m = 4 := by omega
      exact he

end TruthTables
