import TruthTables.Proofs.Formula.Inventory
import TruthTables.Proofs.Table.Stages
import TruthTables.Proofs.Table.Values
import TruthTables.Proofs.Text.Visible

/-!
# What is told while a table is built

Building a table tells what is done: that tokens have been read, that they have been read as a
formula, which columns there are, and at last each row.  What it tells follows from what it
comes to.  Each stage tells nothing before it is done, so the log stops at the stage that
decides; and evaluation, which could stop it between two rows, never finds fault.

Three counts are told, each by another stage: the tokens of the line, the nodes that reading
recorded, and the nodes among which columns were chosen.  They are one number, that of the
characters of the line that are no white space: each of these makes one token
(`length_of_scan`), and each token one node (`length_inventory_of_parseTokens`).

## Main definitions

* `Table.ToldIn t line log` — the records `log` tell how the table `t` was built from `line`.
* `LoggedBy line b` — the log of the build `b` of `line` is the one that its outcome asks for.

## Main results

* `evalRows_fst` — a row that has been evaluated has its record.
* `build_log_of_stages` — the whole log of a line that has a table.
* `build_loggedBy` — **the log of a line follows from its outcome.**
-/

namespace TruthTables

/-! ### Counts -/

/-- **Each character that is no white space makes one token.** -/
theorem length_of_scan {t : Text} {ts : List Token} (h : scan t = .ok ts) :
    ts.length = t.visible.length := by
  have hforeign := (scan_eq_ok_iff.mp h).1
  have hsymbols : (t.filterMap symbolOf?).length = t.visible.length := by
    clear h
    induction t with
    | nil => rfl
    | cons c t ih =>
      obtain ⟨hc, ht⟩ := List.forall_mem_cons.mp hforeign
      rw [Text.visible]
      cases hs : symbolOf? c with
      | none =>
        -- what is neither foreign nor a symbol is white space
        have hblank : isBlank c = true := by simpa [isForeign, hs] using hc
        rw [List.filterMap_cons_none hs, List.filter_cons_of_neg (by simp [hblank]), ih ht]
        rfl
      | some s =>
        have hblank := isBlank_eq_false_of_symbolOf? hs
        rw [List.filterMap_cons_some hs, List.filter_cons_of_pos (by simp [hblank]),
          List.length_cons, List.length_cons, ih ht]
        rfl
  rw [← hsymbols, ← map_symbol_of_scan h, List.length_map]

/-- **Each token makes one node.** -/
theorem length_inventory_of_parseTokens {ts : List Token} {p : Parsed}
    (h : parseTokens ts = .ok p) : p.inventory.length = ts.length := by
  obtain ⟨-, hsymbols⟩ := root_of_parseTokens h
  rw [inventory_eq_postorder h, Formula.length_postorder, Formula.nodeCount_eq_length_symbols,
    hsymbols, List.length_map]

/-! ### Rows -/

/-- **A row that has been evaluated has its record**, and no other record is made. -/
theorem evalRows_fst {columns : List Formula} : ∀ {as : List Assignment} {rows : List (List Bool)},
    (evalRows columns as).2 = .ok rows →
      (evalRows columns as).1 = List.zipWith rowRecord as rows := by
  intro as
  induction as with
  | nil => intro rows _; rfl
  | cons a as ih =>
    intro rows h
    rw [evalRows] at h ⊢
    cases hrow : evalRow a columns with
    | error e =>
      rw [hrow] at h
      cases h
    | ok row =>
      simp only [hrow] at h ⊢
      cases hrest : (evalRows columns as).2 with
      | error e =>
        rw [hrest] at h
        cases h
      | ok rest =>
        rw [hrest] at h
        obtain rfl := Except.ok.inj h
        rw [ih hrest, List.zipWith_cons_cons]

/-- What is told of a formula that has been read: how many columns there are, and each row. -/
theorem buildParsed_log {expression : Text} {p : Parsed} (hprec : p.root.FollowsPrecedence)
    (hlettered : p.root.IsLettered) (hinventory : p.inventory = p.root.postorder) :
    (buildParsed expression p).log =
      columnsRecord expression p.inventory.length p.root.columns.length ::
        List.zipWith rowRecord p.root.vars.assignments (p.root.table expression).rows := by
  have hcolumns : selectColumns p.root.vars.toList p.inventory = p.root.columns := by
    rw [hinventory, Formula.selectColumns_postorder hprec hlettered]
  simp only [buildParsed, hcolumns, evalRows_fst (p.root.evalRows_columns expression)]

/-! ### Lines -/

section Stages

variable {line : Text} {ts : List Token}

theorem build_log_of_scan_eq_error {e : BadCharacter} (hscan : scan line.trim = .error e) :
    (build line).log = [] := by
  simp only [build, hscan]

theorem build_log_of_checkLimits_eq_error {e : LimitError} (hscan : scan line.trim = .ok ts)
    (hcheck : checkLimits ts = .error e) :
    (build line).log = [tokenizedRecord line.trim.visible.length] := by
  simp only [build, hscan, hcheck, length_of_scan hscan]

theorem build_log_of_parseTokens_eq_error {e : GrammarError} (hscan : scan line.trim = .ok ts)
    (hcheck : checkLimits ts = .ok ()) (hread : parseTokens ts = .error e) :
    (build line).log = [tokenizedRecord line.trim.visible.length] := by
  simp only [build, hscan, hcheck, hread, length_of_scan hscan]

/-- **The whole log of a line that has a table.** -/
theorem build_log_of_stages {p : Parsed} (hscan : scan line.trim = .ok ts)
    (hcheck : checkLimits ts = .ok ()) (hread : parseTokens ts = .ok p) :
    (build line).log =
      tokenizedRecord line.trim.visible.length :: parsedRecord p ::
        columnsRecord line.trim line.trim.visible.length p.root.columns.length ::
          List.zipWith rowRecord p.root.vars.assignments (p.root.table line.trim).rows := by
  obtain ⟨hprec, -, hinventory⟩ := parseTokens_eq_ok_iff.mp hread
  have hlettered := isLettered_of_parse (parse_eq_ok_iff_exists_scan.mpr ⟨ts, hscan, hread⟩)
  simp only [build, hscan, hcheck, hread, buildParsed_log hprec hlettered hinventory,
    length_inventory_of_parseTokens hread, length_of_scan hscan]

end Stages

/-- The records `log` tell how the table `t` was built from `line`, once trimmed. -/
structure Table.ToldIn (t : Table) (line : Text) (log : List Record) : Prop where
  /-- There are three records, and one for each choice of truth values. -/
  length_eq : log.length = 3 + Nat.pow 2 t.vars.size
  /-- First the tokens are told: as many as there are characters other than white space. -/
  tokens : log[0]? = some ⟨.trace,
    "tokenized ".toList ++ Text.ofNat line.visible.length ++ " tokens".toList⟩
  /-- Then the formula, which is the last header, and as many sub-formulas. -/
  formula : ∃ header, t.headers.getLast? = some header ∧ log[1]? = some ⟨.debug,
    "parsed '".toList ++ header ++ "' with ".toList ++ Text.ofNat line.visible.length ++
      " sub-expressions".toList⟩
  /-- Then the line, as many nodes, and the columns. -/
  columns : log[2]? = some ⟨.debug,
    '\'' :: line ++ "': ".toList ++ Text.ofNat line.visible.length ++ " nodes built, ".toList ++
      Text.ofNat t.headers.length ++ " columns kept".toList⟩
  /-- Then the rows in order, each with its assignment and the words for its values. -/
  row : ∀ i < Nat.pow 2 t.vars.size, ∃ a row, t.assignments[i]? = some a ∧ t.rows[i]? = some row ∧
    log[3 + i]? = some ⟨.trace, a.text ++ " -> [".toList ++
      List.intercalate ", ".toList (row.map fun b => if b then "true".toList else "false".toList) ++
        [']']⟩

/-- The table of a formula is told by the records that building it makes. -/
theorem Formula.toldIn_table {line : Text} {p : Parsed}
    (hcount : p.inventory.length = line.visible.length) :
    (p.root.table line).ToldIn line
      (tokenizedRecord line.visible.length :: parsedRecord p ::
        columnsRecord line line.visible.length p.root.columns.length ::
          List.zipWith rowRecord p.root.vars.assignments (p.root.table line).rows) where
  length_eq := by
    have hrows := p.root.length_rows_table line
    rw [List.length_cons, List.length_cons, List.length_cons, List.length_zipWith, hrows,
      Names.length_assignments, Names.assignmentCount, Nat.min_self]
    show Nat.pow 2 p.root.vars.size + 3 = 3 + Nat.pow 2 p.root.vars.size
    exact Nat.add_comm ..
  tokens := rfl
  formula := by
    refine ⟨p.root.text, ?_, ?_⟩
    · have hlast : (p.root.columns.map text).getLast? = some p.root.text := by
        rw [List.getLast?_map, p.root.getLast?_columns]
        rfl
      exact hlast
    · rw [List.getElem?_cons_succ, List.getElem?_cons_zero, parsedRecord, hcount]
  columns := by
    have hheaders : (p.root.table line).headers.length = p.root.columns.length :=
      List.length_map _
    rw [hheaders]
    rfl
  row := by
    intro i hi
    have ha : p.root.vars.assignments[i]? = some (p.root.vars.assignment i) :=
      Names.getElem?_assignments_eq_some_iff.mpr ⟨hi, rfl⟩
    have hrow := p.root.getElem?_rows_table_of_lt line hi
    refine ⟨_, _, ha, hrow, ?_⟩
    rw [Nat.add_comm, List.getElem?_cons_succ, List.getElem?_cons_succ, List.getElem?_cons_succ,
      List.getElem?_zipWith, ha, hrow]
    rfl

/-- The log of the build `b` is the one that its outcome asks for, if `line` is what it was built
from, trimmed. -/
structure LoggedBy (line : Text) (b : Build) : Prop where
  /-- A foreign character leaves nothing to tell. -/
  lexical : ∀ e, b.result = .error (.lexical e) → b.log = []
  /-- If a limit is exceeded, the tokens have been told. -/
  limit : ∀ e, b.result = .error (.limit e) → b.log = [⟨.trace,
    "tokenized ".toList ++ Text.ofNat line.visible.length ++ " tokens".toList⟩]
  /-- If they make no formula, nothing more has been told. -/
  grammar : ∀ e, b.result = .error (.grammar e) → b.log = [⟨.trace,
    "tokenized ".toList ++ Text.ofNat line.visible.length ++ " tokens".toList⟩]
  /-- There is no other way to fail. -/
  not_unbound : ∀ e, b.result ≠ .error (.unbound e)
  /-- If there is a table, everything about it has been told. -/
  table : ∀ t, b.result = .ok t → t.ToldIn line b.log

/-- **The log of a line follows from its outcome.** -/
theorem build_loggedBy (line : Text) : LoggedBy line.trim (build line) := by
  have houtcome := buildTable_outcome line
  refine ⟨fun e h => ?_, fun e h => ?_, fun e h => ?_, buildTable_ne_unbound line, fun t h => ?_⟩
  all_goals rw [buildTable, h] at houtcome
  · cases houtcome with
    | lexical hscan => exact build_log_of_scan_eq_error hscan
  · cases houtcome with
    | limit hscan hcheck => exact build_log_of_checkLimits_eq_error hscan hcheck
  · cases houtcome with
    | grammar hscan hcheck hread => exact build_log_of_parseTokens_eq_error hscan hcheck hread
  · cases houtcome with
    | table hscan hcheck hread =>
      rw [build_log_of_stages hscan hcheck hread]
      exact Formula.toldIn_table
        ((length_inventory_of_parseTokens hread).trans (length_of_scan hscan))

/-- Of a line with two columns and two rows five records are made; a line that ends too early has
one, which counts its tokens. -/
example :
    (build "~ A ".toList).log = [tokenizedRecord 2, parsedRecord ⟨.neg (.atom 'A'), [.atom 'A',
        .neg (.atom 'A')]⟩, columnsRecord "~ A".toList 2 2,
        ⟨.trace, "{A: T} -> [true, false]".toList⟩, ⟨.trace, "{A: F} -> [false, true]".toList⟩] ∧
      (build "A ∧ B →".toList).log = [⟨.trace, "tokenized 4 tokens".toList⟩] := by
  decide +kernel

end TruthTables
