import TruthTables.Table.Basic
import TruthTables.LineError.Basic
import TruthTables.Text.Blank
import TruthTables.Log

/-!
# From a line to its table

A line is trimmed, taken apart into tokens, held against the limits, read as a
formula and evaluated; the first of these stages that fails decides.  What is
done is told in records on the way.

## Main definitions

* `Build` — what a line comes to: the records, and a table or an error.
* `build line`, `buildTable line` — all of it, and only the table or the error.
-/

namespace TruthTables

/-- What a line comes to. -/
structure Build where
  /-- What was done. -/
  log : List Record
  /-- The table, or why there is none. -/
  result : Except LineError Table

/-! ### Records -/

/-- Tokens have been read. -/
def tokenizedRecord (count : Nat) : Record :=
  ⟨.trace, "tokenized ".toList ++ Text.ofNat count ++ " tokens".toList⟩

/-- A formula has been read. -/
def parsedRecord (p : Parsed) : Record :=
  ⟨.debug, "parsed '".toList ++ p.root.text ++ "' with ".toList ++
    Text.ofNat p.inventory.length ++ " sub-expressions".toList⟩

/-- The columns of a table have been chosen among the nodes of its formula. -/
def columnsRecord (expression : Text) (built kept : Nat) : Record :=
  ⟨.debug, '\'' :: expression ++ "': ".toList ++ Text.ofNat built ++ " nodes built, ".toList ++
    Text.ofNat kept ++ " columns kept".toList⟩

/-- How the log writes a truth value. -/
def truthWord (b : Bool) : Text := if b then "true".toList else "false".toList

/-- A row has been evaluated. -/
def rowRecord (a : Assignment) (row : List Bool) : Record :=
  ⟨.trace, a.text ++ " -> [".toList ++ List.intercalate ", ".toList (row.map truthWord) ++ [']']⟩

/-! ### Rows -/

/-- The values of some formulas under an assignment. -/
def evalRow (a : Assignment) : List Formula → Except Unbound (List Bool)
  | [] => .ok []
  | f :: fs =>
    match f.eval a with
    | .error e => .error e
    | .ok b => (evalRow a fs).map (b :: ·)

/-- The rows for some assignments, each with its record, up to the first that
cannot be evaluated. -/
def evalRows (columns : List Formula) :
    List Assignment → List Record × Except Unbound (List (List Bool))
  | [] => ([], .ok [])
  | a :: as =>
    match evalRow a columns with
    | .error e => ([], .error e)
    | .ok row =>
      let rest := evalRows columns as
      (rowRecord a row :: rest.1, rest.2.map (row :: ·))

/-- The values of some formulas, when every letter of them has the value that
`v` gives it. -/
theorem evalRow_eq_map_truth {a : Assignment} {v : Char → Bool} {fs : List Formula}
    (h : ∀ f ∈ fs, ∀ c ∈ f.letters, a.get? c = some (v c)) :
    evalRow a fs = .ok (fs.map fun f => f.truth v) := by
  induction fs with
  | nil => rfl
  | cons f fs ih =>
    rw [evalRow, Formula.eval_eq_truth (h f List.mem_cons_self),
      ih fun g hg => h g (List.mem_cons_of_mem f hg)]
    rfl

/-! ### Tables -/

/-- The table of a formula that has been read from a line. -/
def buildParsed (expression : Text) (p : Parsed) : Build :=
  let vars := p.root.vars
  let columns := selectColumns vars.toList p.inventory
  let rows := evalRows columns vars.assignments
  { log := columnsRecord expression p.inventory.length columns.length :: rows.1
    result :=
      match rows.2 with
      | .error e => .error (.unbound e)
      | .ok rows => .ok ⟨expression, vars, columns, rows⟩ }

/-- What a line comes to. -/
def build (line : Text) : Build :=
  let expression := line.trim
  match scan expression with
  | .error e => ⟨[], .error (.lexical e)⟩
  | .ok ts =>
    match checkLimits ts with
    | .error e => ⟨[tokenizedRecord ts.length], .error (.limit e)⟩
    | .ok () =>
      match parseTokens ts with
      | .error e => ⟨[tokenizedRecord ts.length], .error (.grammar e)⟩
      | .ok p =>
        let b := buildParsed expression p
        ⟨tokenizedRecord ts.length :: parsedRecord p :: b.log, b.result⟩

/-- The table of a line, or why it has none. -/
def buildTable (line : Text) : Except LineError Table := (build line).result

end TruthTables
