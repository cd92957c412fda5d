import TruthTables.LineError.Basic
import TruthTables.Table.Render

/-!
# Reporting errors

A line without a table is reported in one line: what it says, the stage at which
it failed, and why.

## Main definitions

* `report s line e` — the report on a line with the error `e`.
-/

namespace TruthTables

/-- The report on a line that has no table. -/
def report (s : Style) (line : Text) (e : LineError) : Text :=
  s.paint theme.subject ('\'' :: line ++ ['\'']) ++
    ' ' :: s.paint theme.error (e.stage.name ++ " error: ".toList ++ e.message) ++ ['\n']

end TruthTables
