import TruthTables.Token.Basic

/-!
# Limits on a line

A table grows with the variables of its formula and with the formula itself, so
a line may have no more than three different variables and no more than four
operators.  Both are counted on the tokens of the line, whether or not they make
a formula, and the variables are counted first.

## Main definitions

* `maxVariables`, `maxOperators` — the two limits.
* `LimitError` — which limit is exceeded, by what count.
* `checkLimits ts` — whether the tokens `ts` keep to the limits.
-/

namespace TruthTables

/-- The largest number of different variables of a line. -/
def maxVariables : Nat := 3

/-- The largest number of negations and connectives of a line. -/
def maxOperators : Nat := 4

/-- A limit that a line exceeds. -/
inductive LimitError
  /-- There are `count` different variables where `max` are allowed. -/
  | tooManyVariables (count max : Nat)
  /-- There are `count` operators where `max` are allowed. -/
  | tooManyOperators (count max : Nat)
  deriving DecidableEq, Repr

/-- The names of the variables among some tokens. -/
def tokenNames (ts : List Token) : Names := Names.ofList (ts.filterMap (·.symbol.name?))

/-- The number of operators among some tokens. -/
def operatorTokens (ts : List Token) : Nat := ts.countP (·.symbol.isOperator)

/-- Checks some tokens against the limits. -/
def checkLimits (ts : List Token) : Except LimitError Unit :=
  if maxVariables < (tokenNames ts).size then
    .error (.tooManyVariables (tokenNames ts).size maxVariables)
  else if maxOperators < operatorTokens ts then
    .error (.tooManyOperators (operatorTokens ts) maxOperators)
  else .ok ()

/-- Exactly the tokens within both limits pass. -/
theorem checkLimits_eq_ok_iff {ts : List Token} :
    checkLimits ts = .ok () ↔
      (tokenNames ts).size ≤ maxVariables ∧ operatorTokens ts ≤ maxOperators := by
  simp only [checkLimits]
  split
  · next h => simp only [reduceCtorEq, false_iff]; omega
  · split
    · next h => simp only [reduceCtorEq, false_iff]; omega
    · next h => simp only [true_iff]; omega

end TruthTables
