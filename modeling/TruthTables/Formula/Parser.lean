import TruthTables.Token.Scanner

/-!
# Reading formulas

There is a reader for each level of precedence, which reads an operand of its
level at the start of some tokens and leaves the tokens after it.  For a negation
it is the reader of the operand that is called again; for a connective the reader
of the next tighter level is called for a first operand, and once more after each
sign of the connective, so that operands group to the left.  Each node of the
formula is recorded at the moment it is built.

A reader leaves fewer tokens than it finds, and says so in the type of what it
returns; that is why reading comes to an end.

## Main definitions

* `GrammarError` — why a sequence of tokens is no formula.
* `Reading` — a formula together with the nodes built so far.
* `OperandReader` — a reader of operands, which returns an `Operand`.
* `readNegation`, `readConjunction`, `readDisjunction`, `readImplication` — the
  readers, from the tightest level to the loosest.
* `parseTokens ts`, `parse t` — the formula of some tokens, of a text.
-/

namespace TruthTables

/-- Why a sequence of tokens is no formula. -/
inductive GrammarError
  /-- A variable or a negation has to come here: where a connective stands, or,
  if there is no offset, at the end of the tokens. -/
  | variableExpected (offset : Option Nat)
  /-- An operand is complete, and a token other than a connective follows it, at the place with
  this offset. -/
  | unexpected (token : Token) (offset : Nat)
  deriving DecidableEq, Repr

/-- A formula, and all nodes built up to now, the newest first. -/
structure Reading where
  /-- The formula. -/
  formula : Formula
  /-- The nodes built up to now, the newest first. -/
  built : List Formula
  deriving DecidableEq, Repr

namespace Reading

/-- A newly built node, after the others. -/
def node (f : Formula) (built : List Formula) : Reading := ⟨f, f :: built⟩

end Reading

/-! ### The levels of precedence -/

/-- An operand at the start of some tokens, which number `bound`. -/
structure Operand (bound : Nat) where
  /-- The operand, with the nodes built up to its end. -/
  reading : Reading
  /-- The tokens after it. -/
  rest : List Token
  /-- There are fewer of them. -/
  shorter : rest.length < bound

/-- Reads an operand at the start of some tokens, given the nodes already built. -/
abbrev OperandReader :=
  (ts : List Token) → (built : List Formula) → Except GrammarError (Operand ts.length)

/-- Reads a variable. -/
def readVariable : OperandReader
  | [], _ => .error (.variableExpected none)
  | ⟨.atom name, _⟩ :: ts, built => .ok ⟨.node (.atom name) built, ts, Nat.lt_succ_self _⟩
  | ⟨.neg, offset⟩ :: _, _ => .error (.variableExpected offset)
  | ⟨.op _, offset⟩ :: _, _ => .error (.variableExpected offset)

/-- Reads a variable with any number of signs of negation before it. -/
def readNegation : OperandReader
  | ⟨.neg, _⟩ :: ts, built =>
    match readNegation ts built with
    | .error e => .error e
    | .ok x =>
      .ok ⟨.node (.neg x.reading.formula) x.reading.built, x.rest, Nat.lt_succ_of_lt x.shorter⟩
  | ts, built => readVariable ts built

/-- Joins operands to a left one, as long as a sign of `op` comes before them. -/
def readChain (op : Connective) (operand : OperandReader) (bound : Nat) :
    (left : Reading) → (ts : List Token) → ts.length < bound → Except GrammarError (Operand bound)
  | left, [], h => .ok ⟨left, [], h⟩
  | left, t :: ts, h =>
    if t.symbol = .op op then
      match operand ts left.built with
      | .error e => .error e
      | .ok x =>
        readChain op operand bound
          (.node (.bin op left.formula x.reading.formula) x.reading.built) x.rest
          (Nat.lt_trans (Nat.lt_succ_of_lt x.shorter) h)
    else .ok ⟨left, t :: ts, h⟩
termination_by _ ts => ts.length
decreasing_by exact Nat.lt_succ_of_lt x.shorter

/-- Reads operands with signs of `op` between them. -/
def readLevel (op : Connective) (operand : OperandReader) : OperandReader := fun ts built =>
  match operand ts built with
  | .error e => .error e
  | .ok x => readChain op operand ts.length x.reading x.rest x.shorter

/-- Reads negations with signs of conjunction between them. -/
def readConjunction : OperandReader := readLevel .and readNegation

/-- Reads conjunctions with signs of disjunction between them. -/
def readDisjunction : OperandReader := readLevel .or readConjunction

/-- Reads disjunctions with signs of implication between them. -/
def readImplication : OperandReader := readLevel .implies readDisjunction

/-! ### Formulas -/

/-- A formula that has been read. -/
structure Parsed where
  /-- The formula. -/
  root : Formula
  /-- All nodes that were built for it, in the order in which they were built. -/
  inventory : List Formula
  deriving DecidableEq, Repr

/-- The formula that some tokens write.  No token may be left after it. -/
def parseTokens (ts : List Token) : Except GrammarError Parsed :=
  match readImplication ts [] with
  | .error e => .error e
  | .ok x =>
    match x.rest with
    | [] => .ok ⟨x.reading.formula, x.reading.built.reverse⟩
    | t :: _ => .error (.unexpected t t.offset)

/-- Why a text is no formula. -/
inductive ParseError
  /-- It has a character that belongs to no formula. -/
  | lexical (error : BadCharacter)
  /-- Its tokens make no formula. -/
  | grammar (error : GrammarError)
  deriving DecidableEq, Repr

/-- The formula that a text writes. -/
def parse (t : Text) : Except ParseError Parsed :=
  match scan t with
  | .error e => .error (.lexical e)
  | .ok ts => (parseTokens ts).mapError .grammar

end TruthTables
