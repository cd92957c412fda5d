import TruthTables.Text.Basic

/-!
# The log

What is done is told in records of three levels.  The verbosity that is asked
for, a number of one byte, decides how many of the levels are shown.

## Main definitions

* `Level`, `Record` — the levels, and a message of some level.
* `Level.isShown verbosity level` — records of the level are shown.
-/

namespace TruthTables

/-- The level of a record, from the most general to the most detailed. -/
inductive Level
  /-- What a whole run does. -/
  | info
  /-- What is done with a line. -/
  | debug
  /-- The single steps. -/
  | trace
  deriving DecidableEq, Repr

namespace Level

/-- The name of a level in the log. -/
def name : Level → Text
  | info => "INFO".toList
  | debug => "DEBUG".toList
  | trace => "TRACE".toList

/-- The least verbosity at which a level is shown. -/
def threshold : Level → Nat
  | info => 1
  | debug => 2
  | trace => 3

/-- Whether a level is shown: verbosity 0 shows none, and from 3 on all are. -/
def isShown (verbosity : UInt8) (l : Level) : Bool := l.threshold ≤ verbosity.toNat

end Level

/-- One record of the log. -/
structure Record where
  /-- How general it is. -/
  level : Level
  /-- What it says. -/
  message : Text
  deriving DecidableEq, Repr

end TruthTables
