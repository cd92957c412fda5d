import TruthTables.Table.Build
import TruthTables.Proofs.Table.Columns
import TruthTables.Proofs.Token.Limits

/-!
# What building a table comes to

The table of a formula is given once more, without any lookup: a row for each
number of an assignment, with the truth values of the columns under the values
that the number spells.  Building a table from a line gives this one and no
other.

Every variable of a column is a variable of the formula.  So it has a value in
each assignment, and no row fails: a line that can be read and keeps to the
limits always has its table.

## Main definitions

* `Formula.table expression f` — the table of `f`.
* `Outcome line result` — `result` is what `line` comes to, by the stage that decides.

## Main results

* `evalRows_map_assignment` — the rows of a table never fail.
* `buildTable_outcome` — each line comes to one of four outcomes.
* `buildTable_eq_ok_iff` — **when a line has a table, and which one.**
-/

namespace TruthTables

/-- The table of a formula. -/
def Formula.table (expression : Text) (f : Formula) : Table where
  expression := expression
  vars := f.vars
  columns := f.columns
  rows := (List.range f.vars.assignmentCount).map fun i =>
    f.columns.map fun g => g.truth (f.vars.valuation i)

/-! ### Rows -/

theorem evalRow_assignment {names : Names} {columns : List Formula}
    (h : ∀ g ∈ columns, ∀ c ∈ g.letters, c ∈ names) (i : Nat) :
    evalRow (names.assignment i) columns =
      .ok (columns.map fun g => g.truth (names.valuation i)) :=
  evalRow_eq_map_truth fun g hg c hc => Names.get?_assignment (h g hg c hc) i

/-- **The rows of a table never fail**, as long as the columns have no variables
but those of the table. -/
theorem evalRows_map_assignment {names : Names} {columns : List Formula}
    (h : ∀ g ∈ columns, ∀ c ∈ g.letters, c ∈ names) (is : List Nat) :
    (evalRows columns (is.map names.assignment)).2 =
      .ok (is.map fun i => columns.map fun g => g.truth (names.valuation i)) := by
  induction is with
  | nil => rfl
  | cons i is ih =>
    rw [List.map_cons, evalRows, evalRow_assignment h i]
    simp only [ih]
    rfl

/-- The rows of the columns of a formula are those of its table. -/
theorem Formula.evalRows_columns (f : Formula) (expression : Text) :
    (evalRows f.columns f.vars.assignments).2 = .ok (f.table expression).rows :=
  evalRows_map_assignment (fun _ hg _ hc => mem_vars_of_mem_columns hg hc)
    (List.range f.vars.assignmentCount)

/-! ### Tables -/

/-- The table of what has been read. -/
theorem buildParsed_result {expression : Text} {p : Parsed} (hprec : p.root.FollowsPrecedence)
    (hlettered : p.root.IsLettered) (hinventory : p.inventory = p.root.postorder) :
    (buildParsed expression p).result = .ok (p.root.table expression) := by
  have hcolumns : selectColumns p.root.vars.toList p.inventory = p.root.columns := by
    rw [hinventory, Formula.selectColumns_postorder hprec hlettered]
  simp only [buildParsed, hcolumns, p.root.evalRows_columns expression]
  rfl

/-- The stages of building a table, each of which can decide. -/
theorem buildTable_eq (line : Text) :
    buildTable line =
      match scan line.trim with
      | .error e => .error (.lexical e)
      | .ok ts =>
        match checkLimits ts with
        | .error e => .error (.limit e)
        | .ok () =>
          match parseTokens ts with
          | .error e => .error (.grammar e)
          | .ok p => (buildParsed line.trim p).result := by
  unfold buildTable build
  cases hscan : scan line.trim with
  | error e => simp only [hscan]
  | ok ts =>
    simp only [hscan]
    cases checkLimits ts with
    | error e => rfl
    | ok u => cases parseTokens ts <;> rfl

/-- **If no stage finds fault, there is a table**, that of the formula that is read. -/
theorem buildTable_eq_ok_of_stages {line : Text} {ts : List Token} {p : Parsed}
    (hscan : scan line.trim = .ok ts) (hcheck : checkLimits ts = .ok ())
    (hread : parseTokens ts = .ok p) : buildTable line = .ok (p.root.table line.trim) := by
  have hparse := parse_eq_ok_iff_exists_scan.mpr ⟨ts, hscan, hread⟩
  obtain ⟨hprec, -, hinventory⟩ := parseTokens_eq_ok_iff.mp hread
  have hresult : (buildParsed line.trim p).result = .ok (p.root.table line.trim) :=
    buildParsed_result hprec (isLettered_of_parse hparse) hinventory
  simp only [buildTable_eq, hscan, hcheck, hread, hresult]

/-- What a line comes to, with the stage that decides it and what came of the stages
before. -/
inductive Outcome (line : Text) : Except LineError Table → Prop
  /-- Scanning ends at a foreign character. -/
  | lexical {e : BadCharacter} (hscan : scan line.trim = .error e) :
    Outcome line (.error (.lexical e))
  /-- A limit is exceeded. -/
  | limit {ts : List Token} {e : LimitError} (hscan : scan line.trim = .ok ts)
    (hcheck : checkLimits ts = .error e) : Outcome line (.error (.limit e))
  /-- The tokens make no formula. -/
  | grammar {ts : List Token} {e : GrammarError} (hscan : scan line.trim = .ok ts)
    (hcheck : checkLimits ts = .ok ()) (hread : parseTokens ts = .error e) :
    Outcome line (.error (.grammar e))
  /-- There is a table. -/
  | table {ts : List Token} {p : Parsed} (hscan : scan line.trim = .ok ts)
    (hcheck : checkLimits ts = .ok ()) (hread : parseTokens ts = .ok p) :
    Outcome line (.ok (p.root.table line.trim))

theorem buildTable_eq_of_outcome {line : Text} {result : Except LineError Table}
    (h : Outcome line result) : buildTable line = result := by
  cases h with
  | lexical hscan => rw [buildTable_eq, hscan]
  | limit hscan hcheck => simp only [buildTable_eq, hscan, hcheck]
  | grammar hscan hcheck hread => simp only [buildTable_eq, hscan, hcheck, hread]
  | table hscan hcheck hread => exact buildTable_eq_ok_of_stages hscan hcheck hread

/-- **Each line comes to one of the four outcomes**; evaluation decides none. -/
theorem buildTable_outcome (line : Text) : Outcome line (buildTable line) := by
  -- whatever the stages come to is an outcome, and an outcome is what the line comes to
  have houtcome : ∀ {result}, Outcome line result → Outcome line (buildTable line) := by
    intro result h
    rw [buildTable_eq_of_outcome h]
    exact h
  cases hscan : scan line.trim with
  | error e => exact houtcome (.lexical hscan)
  | ok ts =>
    cases hcheck : checkLimits ts with
    | error e => exact houtcome (.limit hscan hcheck)
    | ok u =>
      cases hread : parseTokens ts with
      | error e => exact houtcome (.grammar hscan hcheck hread)
      | ok p => exact houtcome (.table hscan hcheck hread)

/-- **When a line has a table, and which one**: a line that can be read and keeps
to both limits has the table of the formula that is read. -/
theorem buildTable_eq_ok_iff {line : Text} {table : Table} :
    buildTable line = .ok table ↔
      ∃ p, parse line.trim = .ok p ∧ p.root.vars.size ≤ maxVariables ∧
        p.root.operatorCount ≤ maxOperators ∧ table = p.root.table line.trim := by
  constructor
  · intro h
    have houtcome := buildTable_outcome line
    rw [h] at houtcome
    cases houtcome with
    | @table ts p hscan hcheck hread =>
      obtain ⟨-, hsymbols, -⟩ := parseTokens_eq_ok_iff.mp hread
      obtain ⟨hvars, hoperators⟩ := (checkLimits_eq_ok_iff_of_symbols hsymbols).mp hcheck
      exact ⟨p, parse_eq_ok_iff_exists_scan.mpr ⟨ts, hscan, hread⟩, hvars, hoperators, rfl⟩
  · rintro ⟨p, hparse, hvars, hoperators, rfl⟩
    obtain ⟨ts, hscan, hread⟩ := parse_eq_ok_iff_exists_scan.mp hparse
    obtain ⟨-, hsymbols, -⟩ := parseTokens_eq_ok_iff.mp hread
    have hcheck := (checkLimits_eq_ok_iff_of_symbols hsymbols).mpr ⟨hvars, hoperators⟩
    exact buildTable_eq_ok_of_stages hscan hcheck hread

/-! ### No column is lost -/

/-- **No column is lost by looking at headers only.**  Sub-formulas of what has
been read, from one text or from two, are equal if their written forms are; so the
columns of a table are all variables in order, and then every different compound
sub-formula where it first occurs. -/
theorem columns_told_apart_by_text :
    (∀ (s t : Text) (p q : Parsed), parse s = .ok p → parse t = .ok q →
      ∀ f ∈ p.inventory, ∀ g ∈ q.inventory, f.text = g.text → f = g) ∧
    (∀ (line : Text) (table : Table), buildTable line = .ok table →
      ∃ p, parse line.trim = .ok p ∧
        table.columns = p.root.vars.toList.map .atom ++
          (p.root.postorder.filter Formula.isCompound).eraseDups) := by
  constructor
  · intro s t p q hp hq f hf g hg htext
    obtain ⟨-, hpprec, -, hpinv⟩ := parse_eq_ok_iff.mp hp
    obtain ⟨-, hqprec, -, hqinv⟩ := parse_eq_ok_iff.mp hq
    rw [hpinv] at hf
    rw [hqinv] at hg
    exact Formula.eq_of_text_eq (Formula.followsPrecedence_of_mem_postorder hpprec hf)
      (Formula.followsPrecedence_of_mem_postorder hqprec hg)
      (Formula.isLettered_of_mem_postorder (isLettered_of_parse hp) hf)
      (Formula.isLettered_of_mem_postorder (isLettered_of_parse hq) hg) htext
  · intro line table h
    obtain ⟨p, hp, -, -, rfl⟩ := buildTable_eq_ok_iff.mp h
    exact ⟨p, hp, rfl⟩

/-- A conjunction that comes twice in a line has one column, and is the same formula
as the one that another text writes. -/
theorem columns_told_apart_by_text_repeated_conjunction :
    let line : Text := " A ∧ B → A ∧ B".toList
    let g : Formula := .bin .and (.atom 'A') (.atom 'B')
    (∃ table, buildTable line = .ok table ∧
      table.columns = [.atom 'A', .atom 'B', g, .bin .implies g g]) ∧
    ∃ p q, parse line.trim = .ok p ∧ parse "A∧B".toList = .ok q ∧
      ∀ f ∈ p.inventory, f.text = q.root.text → f = g := by
  intro line g
  let f : Formula := .bin .implies g g
  have hp : parse line.trim = .ok ⟨f, f.postorder⟩ := by
    rw [parse_eq_ok_iff_exists_scan]
    exact ⟨_, rfl, by rw [parseTokens_eq_read]; rfl⟩
  have hq : parse "A∧B".toList = .ok ⟨g, g.postorder⟩ := by
    rw [parse_eq_ok_iff_exists_scan]
    exact ⟨_, rfl, by rw [parseTokens_eq_read]; rfl⟩
  have htable : buildTable line = .ok (f.table line.trim) :=
    buildTable_eq_ok_iff.mpr ⟨_, hp, by decide, by decide, rfl⟩
  constructor
  · obtain ⟨p, hp', hcolumns⟩ := columns_told_apart_by_text.2 line _ htable
    obtain rfl := Except.ok.inj (hp.symm.trans hp')
    exact ⟨_, htable, hcolumns⟩
  · refine ⟨⟨f, f.postorder⟩, ⟨g, g.postorder⟩, hp, hq, fun h hh htext => ?_⟩
    exact columns_told_apart_by_text.1 _ _ _ _ hp hq h hh g (Formula.mem_postorder_self g) htext

end TruthTables
