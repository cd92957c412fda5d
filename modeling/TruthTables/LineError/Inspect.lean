import TruthTables.LineError.Basic
import TruthTables.Text.Inspect

/-!
# Errors in the log

The log names the error of a rejected line in full: its kind and all that it
carries.

## Main definitions

* `LineError.inspect` — an error in full.
-/

namespace TruthTables

/-- A place in a line. -/
def inspectLocation (offset : Nat) : Text :=
  Text.fields "SourceLocation".toList [("offset".toList, Text.ofNat offset)]

/-- A place in a line, or none. -/
def inspectLocation? : Option Nat → Text
  | none => "None".toList
  | some offset => Text.application "Some".toList [inspectLocation offset]

/-- A token with its place. -/
def Token.inspect : Token → Text
  | ⟨.atom name, offset⟩ =>
    Text.application "Variable".toList [Text.quotedChar name, inspectLocation offset]
  | ⟨.neg, offset⟩ => Text.application "Not".toList [inspectLocation offset]
  | ⟨.op .and, offset⟩ => Text.application "And".toList [inspectLocation offset]
  | ⟨.op .or, offset⟩ => Text.application "Or".toList [inspectLocation offset]
  | ⟨.op .implies, offset⟩ => Text.application "Implies".toList [inspectLocation offset]

/-- An error in full. -/
def LineError.inspect : LineError → Text
  | lexical e => Text.fields "InvalidCharacter".toList
      [("ch".toList, Text.quotedChar e.char), ("location".toList, inspectLocation e.offset)]
  | limit (.tooManyVariables count max) => Text.fields "TooManyVariables".toList
      [("count".toList, Text.ofNat count), ("max".toList, Text.ofNat max)]
  | limit (.tooManyOperators count max) => Text.fields "TooManyOperators".toList
      [("count".toList, Text.ofNat count), ("max".toList, Text.ofNat max)]
  | grammar (.variableExpected offset) => Text.fields "ExpectedVariable".toList
      [("location".toList, inspectLocation? offset)]
  | grammar (.unexpected t offset) => Text.fields "UnexpectedToken".toList
      [("token".toList, t.inspect), ("location".toList, inspectLocation offset)]
  | unbound e => Text.fields "UnboundVariable".toList [("name".toList, Text.quotedChar e.name)]

end TruthTables
