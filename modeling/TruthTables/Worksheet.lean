import TruthTables.Text.Line
import TruthTables.Table.Build

/-!
# Worksheets

A worksheet is a text with a formula on each line.  Every line that is not blank
is worked out by itself, so an error in one has no effect on the others, and a
summary counts what came of them.

## Main definitions

* `Entry` — a line and what it comes to.
* `worksheet t` — the entries of a text.
* `Summary`, `Summary.ofEntries` — how many lines there were, how many have a
  table and how many have none.
* `runningSummaries` — the summary after each entry.
-/

namespace TruthTables

/-- A line of a worksheet and what it comes to. -/
structure Entry where
  /-- The line. -/
  line : NumberedLine
  /-- What it comes to. -/
  build : Build

/-- The entry of a line. -/
def Entry.ofLine (l : NumberedLine) : Entry := ⟨l, TruthTables.build l.content⟩

/-- The table of an entry, or why it has none. -/
def Entry.result (e : Entry) : Except LineError Table := e.build.result

/-- The entries of a text. -/
def worksheet (t : Text) : List Entry := t.filledLines.map Entry.ofLine

/-- How many lines there were, and what came of them. -/
structure Summary where
  /-- The number of lines that are not blank. -/
  lines : Nat
  /-- The number of those with a table. -/
  tables : Nat
  /-- The number of those without. -/
  failures : Nat
  deriving DecidableEq, Repr

namespace Summary

/-- The summary of nothing. -/
def empty : Summary := ⟨0, 0, 0⟩

/-- The summary with one entry more. -/
def record (s : Summary) (e : Entry) : Summary :=
  match e.result with
  | .ok _ => ⟨s.lines + 1, s.tables + 1, s.failures⟩
  | .error _ => ⟨s.lines + 1, s.tables, s.failures + 1⟩

/-- The summary of some entries. -/
def ofEntries (es : List Entry) : Summary := es.foldl record empty

end Summary

/-- The summary after each of some entries, when it is `s` before them. -/
def runningSummaries (s : Summary) : List Entry → List Summary
  | [] => []
  | e :: es => s.record e :: runningSummaries (s.record e) es

@[simp] theorem runningSummaries_nil (s : Summary) : runningSummaries s [] = [] := rfl

@[simp] theorem runningSummaries_cons (s : Summary) (e : Entry) (es : List Entry) :
    runningSummaries s (e :: es) = s.record e :: runningSummaries (s.record e) es := rfl

end TruthTables
