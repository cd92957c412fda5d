import TruthTables.Token.Limit
import TruthTables.Formula.Parser
import TruthTables.Formula.Eval

/-!
# Why a line has no table

A line goes through four stages on its way to a table: its characters are taken
apart into tokens, the tokens are held against the limits, a formula is read
from them, and the formula is evaluated.  Each stage has its own errors.

## Main definitions

* `Stage` — the stages; `Stage.name` is what a report calls them.
* `LineError` — an error of one of the stages.
* `LineError.message`, `LineError.offset?` — what is wrong, and where.
* `ParseError.toLineError` — an error of reading a text by itself is one of these.
-/

namespace TruthTables

/-- A stage on the way from a line to its table. -/
inductive Stage
  /-- Taking characters apart into tokens. -/
  | tokenization
  /-- Holding the tokens against the limits. -/
  | validation
  /-- Reading a formula. -/
  | parsing
  /-- Evaluating the formula. -/
  | evaluation
  deriving DecidableEq, Repr

/-- What a report calls a stage. -/
def Stage.name : Stage → Text
  | tokenization => "Tokenization".toList
  | validation => "Validation".toList
  | parsing => "Parsing".toList
  | evaluation => "Evaluation".toList

/-- Why a line has no table. -/
inductive LineError
  /-- A character belongs to no formula. -/
  | lexical (error : BadCharacter)
  /-- The line exceeds a limit. -/
  | limit (error : LimitError)
  /-- The tokens make no formula. -/
  | grammar (error : GrammarError)
  /-- A variable has no value. -/
  | unbound (error : Unbound)
  deriving DecidableEq, Repr

/-! ### Messages -/

/-- How messages name the place with an offset. -/
def atPosition (offset : Nat) : Text := " at position ".toList ++ Text.ofNat (position offset)

/-- A character between apostrophes, as it is. -/
def plainQuoted (c : Char) : Text := ['\'', c, '\'']

/-- What is wrong with a character. -/
def BadCharacter.message (e : BadCharacter) : Text :=
  "Invalid character ".toList ++ plainQuoted e.char ++ atPosition e.offset

/-- What a limit says about a count. -/
def limitMessage (what : Text) (count max : Nat) : Text :=
  "Too many ".toList ++ what ++ ": ".toList ++ Text.ofNat count ++
    " (maximum is ".toList ++ Text.ofNat max ++ [')']

/-- Which limit is exceeded. -/
def LimitError.message : LimitError → Text
  | tooManyVariables count max => limitMessage "variables".toList count max
  | tooManyOperators count max => limitMessage "operators".toList count max

/-- Why tokens make no formula. -/
def GrammarError.message : GrammarError → Text
  | variableExpected (some offset) => "Variable expected".toList ++ atPosition offset
  | variableExpected none => "Variable expected at end of input".toList
  | unexpected t offset => "Unexpected ".toList ++ plainQuoted t.symbol.glyph ++ atPosition offset

/-- Which variable has no value. -/
def Unbound.message (e : Unbound) : Text :=
  "No value assigned to variable ".toList ++ plainQuoted e.name

/-- Why a text is no formula. -/
def ParseError.message : ParseError → Text
  | lexical e => e.message
  | grammar e => e.message

/-- The place of a grammar error, unless it is the end of the tokens. -/
def GrammarError.offset? : GrammarError → Option Nat
  | variableExpected offset => offset
  | unexpected _ offset => some offset

namespace LineError

/-- The stage at which an error arises. -/
def stage : LineError → Stage
  | lexical _ => .tokenization
  | limit _ => .validation
  | grammar _ => .parsing
  | unbound _ => .evaluation

/-- What is wrong with a line. -/
def message : LineError → Text
  | lexical e => e.message
  | limit e => e.message
  | grammar e => e.message
  | unbound e => e.message

/-- The offset at which a line is wrong, if a single place is. -/
def offset? : LineError → Option Nat
  | lexical e => some e.offset
  | limit _ => none
  | grammar e => e.offset?
  | unbound _ => none

end LineError

/-- An error of reading a text by itself, as one of the line that the text is. -/
def ParseError.toLineError : ParseError → LineError
  | lexical e => .lexical e
  | grammar e => .grammar e

end TruthTables
