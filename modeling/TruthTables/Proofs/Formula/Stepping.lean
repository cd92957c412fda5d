import TruthTables.Formula.Parser
import TruthTables.Formula.Grammar

/-!
# Reading in single steps

The readers for the levels of precedence call one another, so what they have read
when they come to a token is spread over all calls that are under way.  Here it is
put into one state, and a token makes one step from state to state.

At any moment an operand or a connective has to come.  Operands whose connective
still lacks its right operand are put by, and since every connective groups to the
left there is never more than one of them for each connective.

Both ways of reading come to the same, errors and recorded nodes included.  A
reader for a level leaves nothing at the start of the remaining tokens that would
still belong to its operand (`beyond_readLevel`); so the state at this moment tells
all that the calls under way still know.

## Main definitions

* `Reader` — the state between two tokens; `Reader.step` reads one token.
* `Reader.read` — reads all tokens from a state.
* `Reader.Steps` — what a step does, a case for each symbol.
* `Beyond n ts` — no connective as tight as the level `n` comes next in `ts`.

## Main results

* `read_readChain` — a chain of operands, read in single steps.
* `parseTokens_eq_read` — **reading level by level is reading in single steps.**
-/

namespace TruthTables

namespace Reading

/-- Negates the formula `n` times. -/
def negate : Nat → Reading → Reading
  | 0, x => x
  | n + 1, x => negate n (node (.neg x.formula) x.built)

/-- Gives the formula as right operand to a left operand that waits for one. -/
def joinTo (op : Connective) : Option Formula → Reading → Reading
  | none, x => x
  | some l, x => node (.bin op l x.formula) x.built

@[simp] theorem negate_zero (x : Reading) : negate 0 x = x := rfl

@[simp] theorem negate_succ (n : Nat) (x : Reading) :
    negate (n + 1) x = negate n (node (.neg x.formula) x.built) := rfl

@[simp] theorem joinTo_none (op : Connective) (x : Reading) : joinTo op none x = x := rfl

@[simp] theorem joinTo_some (op : Connective) (l : Formula) (x : Reading) :
    joinTo op (some l) x = node (.bin op l x.formula) x.built := rfl

end Reading

/-- What has been read, between two tokens.  The left operands of a disjunction
and of an implication that wait for their right operands are `disjunction` and
`implication`. -/
inductive Reader
  /-- An operand has to come.  The left operand of a conjunction may wait for
  it, and `negations` signs of negation stand before it. -/
  | operand (implication disjunction conjunction : Option Formula) (negations : Nat)
      (built : List Formula)
  /-- An operand is complete, as far as negations and conjunctions go. -/
  | operator (implication disjunction : Option Formula) (current : Reading)
  deriving DecidableEq, Repr

namespace Reader

/-- The reader before the first token. -/
def start : Reader := operand none none none 0 []

/-- Reads one token. -/
def step : Reader → Token → Except GrammarError Reader
  | operand i d c n built, ⟨.atom name, _⟩ =>
    .ok (operator i d (((Reading.node (.atom name) built).negate n).joinTo .and c))
  | operand i d c n built, ⟨.neg, _⟩ => .ok (operand i d c (n + 1) built)
  | operand _ _ _ _ _, ⟨.op _, offset⟩ => .error (.variableExpected offset)
  | operator i d x, ⟨.op .and, _⟩ => .ok (operand i d x.formula 0 x.built)
  | operator i d x, ⟨.op .or, _⟩ =>
    let y := x.joinTo .or d
    .ok (operand i y.formula none 0 y.built)
  | operator i d x, ⟨.op .implies, _⟩ =>
    let y := (x.joinTo .or d).joinTo .implies i
    .ok (operand y.formula none none 0 y.built)
  | operator _ _ _, ⟨.atom name, offset⟩ => .error (.unexpected ⟨.atom name, offset⟩ offset)
  | operator _ _ _, ⟨.neg, offset⟩ => .error (.unexpected ⟨.neg, offset⟩ offset)

/-- The end of the tokens: joins all operands that wait. -/
def finish : Reader → Except GrammarError Reading
  | operand _ _ _ _ _ => .error (.variableExpected none)
  | operator i d x => .ok ((x.joinTo .or d).joinTo .implies i)

/-- Reads all tokens that are left. -/
def read : Reader → List Token → Except GrammarError Reading
  | r, [] => r.finish
  | r, t :: ts =>
    match r.step t with
    | .error e => .error e
    | .ok r => read r ts

@[simp] theorem read_nil (r : Reader) : read r [] = r.finish := rfl

theorem read_cons (r : Reader) (t : Token) (ts : List Token) :
    read r (t :: ts) = match r.step t with
      | .error e => .error e
      | .ok r => read r ts := rfl

/-- What a symbol makes of a reader for which it comes in the right place. -/
inductive Steps : Reader → Symbol → Reader → Prop
  /-- A variable completes an operand, under the negations before it, and a conjunction. -/
  | atom (i d c : Option Formula) (n : Nat) (built : List Formula) (a : Char) :
    Steps (operand i d c n built) (.atom a)
      (operator i d (((Reading.node (.atom a) built).negate n).joinTo .and c))
  /-- A negation waits for its operand. -/
  | neg (i d c : Option Formula) (n : Nat) (built : List Formula) :
    Steps (operand i d c n built) .neg (operand i d c (n + 1) built)
  /-- The operand at hand waits for the next conjunct. -/
  | and (i d : Option Formula) (x : Reading) :
    Steps (operator i d x) (.op .and) (operand i d (some x.formula) 0 x.built)
  /-- The operand at hand completes a disjunction, which waits for the next disjunct. -/
  | or (i d : Option Formula) (x : Reading) : Steps (operator i d x) (.op .or)
    (operand i (some (x.joinTo .or d).formula) none 0 (x.joinTo .or d).built)
  /-- The operand at hand completes all that waits, and this is a left operand now. -/
  | implies (i d : Option Formula) (x : Reading) : Steps (operator i d x) (.op .implies)
    (operand (some ((x.joinTo .or d).joinTo .implies i).formula) none none 0
      ((x.joinTo .or d).joinTo .implies i).built)

/-- **A step does one of five things**, by the symbol of its token. -/
theorem steps_of_step {r r' : Reader} {t : Token} (h : r.step t = .ok r') :
    r.Steps t.symbol r' := by
  obtain ⟨s, o⟩ := t
  cases r with
  | operand i d c n built =>
    cases s with
    | atom a =>
      obtain rfl := Except.ok.inj h
      exact .atom i d c n built a
    | neg =>
      obtain rfl := Except.ok.inj h
      exact .neg i d c n built
    | op p => cases h
  | operator i d x =>
    cases s with
    | atom a => cases h
    | neg => cases h
    | op p =>
      cases p with
      | and =>
        obtain rfl := Except.ok.inj h
        exact .and i d x
      | or =>
        obtain rfl := Except.ok.inj h
        exact .or i d x
      | implies =>
        obtain rfl := Except.ok.inj h
        exact .implies i d x

end Reader

/-! ### What a level leaves -/

/-- The next of some tokens is no connective as tight as the level `n`. -/
def Beyond (n : Nat) (ts : List Token) : Prop :=
  ∀ t ∈ ts.head?, ∀ op : Connective, t.symbol = .op op → n < op.level

theorem beyond_nil (n : Nat) : Beyond n [] := by
  intro t ht
  cases ht

theorem beyond_zero (ts : List Token) : Beyond 0 ts := by
  intro t _ op _
  cases op <;> decide

theorem Connective.eq_of_level_eq {op op' : Connective} (h : op.level = op'.level) : op = op' := by
  cases op <;> cases op' <;> first | rfl | cases h

/-- A chain of operands ends where no sign of its connective comes next, nor
anything that would belong to its last operand. -/
theorem beyond_readChain {op : Connective} {operand : OperandReader} {n : Nat}
    (hlevel : op.level = n + 1)
    (hoperand : ∀ ts built x, operand ts built = .ok x → Beyond n x.rest) {bound : Nat} :
    ∀ (left : Reading) (ts : List Token) (h : ts.length < bound) (x : Operand bound),
      Beyond n ts → readChain op operand bound left ts h = .ok x → Beyond (n + 1) x.rest := by
  intro left ts h x hts hx
  fun_induction readChain op operand bound left ts h with
  | case1 left h =>
    obtain rfl := Except.ok.inj hx
    exact beyond_nil (n + 1)
  | case2 left t ts h hop e he => cases hx
  | case3 left t ts h hop y hy _ ih => exact ih (hoperand ts left.built y hy) hx
  | case4 left t ts h hop =>
    obtain rfl := Except.ok.inj hx
    intro u hu op' hop'
    have hn := hts u hu op' hop'
    -- a connective of the level of the chain would have been its own
    have hne : op'.level ≠ n + 1 := by
      intro heq
      obtain rfl := Connective.eq_of_level_eq (heq.trans hlevel.symm)
      obtain rfl := Option.some.inj hu
      exact hop hop'
    omega

/-- **A level leaves nothing that is as tight as it.** -/
theorem beyond_readLevel {op : Connective} {operand : OperandReader} {n : Nat}
    (hlevel : op.level = n + 1)
    (hoperand : ∀ ts built x, operand ts built = .ok x → Beyond n x.rest) :
    ∀ ts built x, readLevel op operand ts built = .ok x → Beyond (n + 1) x.rest := by
  intro ts built x hx
  unfold readLevel at hx
  cases hfirst : operand ts built with
  | error e =>
    rw [hfirst] at hx
    cases hx
  | ok y =>
    rw [hfirst] at hx
    exact beyond_readChain hlevel hoperand y.reading y.rest y.shorter x
      (hoperand ts built y hfirst) hx

theorem beyond_readConjunction : ∀ ts built x, readConjunction ts built = .ok x → Beyond 1 x.rest :=
  beyond_readLevel rfl fun _ _ x _ => beyond_zero x.rest

theorem beyond_readDisjunction : ∀ ts built x, readDisjunction ts built = .ok x → Beyond 2 x.rest :=
  beyond_readLevel rfl beyond_readConjunction

theorem beyond_readImplication : ∀ ts built x, readImplication ts built = .ok x → Beyond 3 x.rest :=
  beyond_readLevel rfl beyond_readDisjunction

/-! ### Levels in single steps -/

/-- Goes on from an operand with the reading that `go` does, if there is an operand. -/
def Operand.followedBy {bound : Nat} (go : Reading → List Token → Except GrammarError Reading) :
    Except GrammarError (Operand bound) → Except GrammarError Reading
  | .error e => .error e
  | .ok x => go x.reading x.rest

/-- **A chain of operands in single steps.**  Reading goes on after a chain as after
its first operand, if a sign of the connective makes it read one operand more and
join it. -/
theorem read_readChain {op : Connective} {operand : OperandReader}
    {go : Reading → List Token → Except GrammarError Reading}
    (hgo : ∀ (left : Reading) (o : Nat) (ts : List Token),
      go left (⟨.op op, o⟩ :: ts) = Operand.followedBy
        (fun x => go (.node (.bin op left.formula x.formula) x.built)) (operand ts left.built))
    {bound : Nat} (left : Reading) (ts : List Token) (h : ts.length < bound) :
    go left ts = Operand.followedBy go (readChain op operand bound left ts h) := by
  fun_induction readChain op operand bound left ts h with
  | case1 left h => rfl
  | case2 left t ts h hop e he =>
    obtain ⟨s, o⟩ := t
    obtain rfl : s = .op op := hop
    rw [hgo, he]
    rfl
  | case3 left t ts h hop x hx _ ih =>
    obtain ⟨s, o⟩ := t
    obtain rfl : s = .op op := hop
    rw [hgo, hx, ← ih]
    rfl
  | case4 left t ts h hop => rfl

/-- A level in single steps, from how its first operand is read. -/
theorem read_readLevel {op : Connective} {operand : OperandReader}
    {go : Reading → List Token → Except GrammarError Reading}
    (hgo : ∀ (left : Reading) (o : Nat) (ts : List Token),
      go left (⟨.op op, o⟩ :: ts) = Operand.followedBy
        (fun x => go (.node (.bin op left.formula x.formula) x.built)) (operand ts left.built))
    (ts : List Token) (built : List Formula) :
    Operand.followedBy go (operand ts built)
      = Operand.followedBy go (readLevel op operand ts built) := by
  unfold readLevel
  cases operand ts built with
  | error e => rfl
  | ok x => exact read_readChain hgo x.reading x.rest x.shorter

namespace Reader

open Reading

theorem read_readNegation : ∀ (ts : List Token) (i d c : Option Formula) (n : Nat)
    (built : List Formula),
      read (operand i d c n built) ts = Operand.followedBy
        (fun x => read (operator i d ((x.negate n).joinTo .and c))) (readNegation ts built) := by
  intro ts
  induction ts with
  | nil => intro i d c n built; rfl
  | cons t ts ih =>
    intro i d c n built
    obtain ⟨s, o⟩ := t
    cases s with
    | atom a => rfl
    | op p => rfl
    | neg =>
      -- one sign of negation more waits for the operand
      have hread := ih i d c (n + 1) built
      rw [read_cons, step, readNegation]
      simp only [hread]
      cases readNegation ts built <;> rfl

theorem read_readConjunction (ts : List Token) (i d : Option Formula) (built : List Formula) :
    read (operand i d none 0 built) ts
      = Operand.followedBy (fun x => read (operator i d x)) (readConjunction ts built) := by
  rw [read_readNegation ts i d none 0 built]
  exact read_readLevel (fun left o us => read_readNegation us i d (some left.formula) 0 left.built)
    ts built

/-- Where no conjunction comes next, the operand at hand may as well be joined to
the disjuncts before it. -/
theorem read_operator_of_beyond_and {ts : List Token} (h : Beyond 1 ts) (i d : Option Formula)
    (x : Reading) : read (operator i d x) ts = read (operator i none (x.joinTo .or d)) ts := by
  cases ts with
  | nil => rfl
  | cons t ts =>
    obtain ⟨s, o⟩ := t
    cases s with
    | atom a => rfl
    | neg => rfl
    | op p =>
      cases p with
      | and => exact absurd (h _ rfl _ rfl) (by decide)
      | or => rfl
      | implies => rfl

/-- Where no disjunction comes next either, it may as well be joined to the
operand of an implication before it. -/
theorem read_operator_of_beyond_or {ts : List Token} (h : Beyond 2 ts) (i : Option Formula)
    (x : Reading) :
    read (operator i none x) ts = read (operator none none (x.joinTo .implies i)) ts := by
  cases ts with
  | nil => rfl
  | cons t ts =>
    obtain ⟨s, o⟩ := t
    cases s with
    | atom a => rfl
    | neg => rfl
    | op p =>
      cases p with
      | and => exact absurd (h _ rfl _ rfl) (by decide)
      | or => exact absurd (h _ rfl _ rfl) (by decide)
      | implies => rfl

theorem read_readDisjunction (ts : List Token) (i : Option Formula) (built : List Formula) :
    read (operand i none none 0 built) ts
      = Operand.followedBy (fun x => read (operator i none x)) (readDisjunction ts built) := by
  rw [read_readConjunction ts i none built]
  refine read_readLevel (fun left o us => ?_) ts built
  have hread := read_readConjunction us i (some left.formula) left.built
  show read (operand i (some left.formula) none 0 left.built) us = _
  rw [hread]
  cases hx : readConjunction us left.built with
  | error e => rfl
  | ok x => exact read_operator_of_beyond_and (beyond_readConjunction us left.built x hx) i _ x.reading

theorem read_readImplication (ts : List Token) (built : List Formula) :
    read (operand none none none 0 built) ts
      = Operand.followedBy (fun x => read (operator none none x)) (readImplication ts built) := by
  rw [read_readDisjunction ts none built]
  refine read_readLevel (fun left o us => ?_) ts built
  have hread := read_readDisjunction us (some left.formula) left.built
  show read (operand (some left.formula) none none 0 left.built) us = _
  rw [hread]
  cases hx : readDisjunction us left.built with
  | error e => rfl
  | ok x => exact read_operator_of_beyond_or (beyond_readDisjunction us left.built x hx) _ x.reading

end Reader

/-- **Reading level by level is reading in single steps**, and neither the errors
nor the recorded nodes differ. -/
theorem parseTokens_eq_read (ts : List Token) :
    parseTokens ts = (Reader.start.read ts).map fun x => ⟨x.formula, x.built.reverse⟩ := by
  rw [Reader.start, Reader.read_readImplication, parseTokens]
  cases hx : readImplication ts [] with
  | error e => rfl
  | ok x =>
    have hbeyond := beyond_readImplication ts [] x hx
    simp only [Operand.followedBy]
    cases hrest : x.rest with
    | nil => rfl
    | cons t us =>
      -- what is left does not begin with a connective, so it is refused
      rw [hrest] at hbeyond
      obtain ⟨s, o⟩ := t
      cases s with
      | atom a => rfl
      | neg => rfl
      | op p =>
        have hlevel := hbeyond _ rfl p rfl
        cases p <;> exact absurd hlevel (by decide)

end TruthTables
