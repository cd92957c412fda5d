import TruthTables.Proofs.Formula.Stepping
import TruthTables.Proofs.Formula.Symbols

/-!
# What the reader of formulas accepts

Reading is compared with the declarative side: the symbols of a formula, and the
formulas that follow precedence.  It is taken in single steps, from one state of a
reader to the next.

Soundness is an invariant of these steps.  A reader never loses a symbol: those
of the operands put by, followed by those of the operand at hand, are the symbols
of the tokens read (`consumed_step`).  And each operand put by binds tightly
enough for its place (`sound_step`).

Completeness follows the formula.  Reading the symbols of one that follows
precedence leads, whatever comes after them, to a state that stands for exactly
this formula; there is one lemma for each level of precedence, from the tightest
to the loosest, and each builds on the one before.

## Main definitions

* `Reader.consumed r` — the symbols that `r` has read.
* `Reader.Sound r` — all operands in `r` bind tightly enough for their places.
* `Reading.whole f built` — `f`, read when `built` were the nodes built before.

## Main results

* `parseTokens_eq_ok_iff` — **what reading tokens comes to**: a formula that
  follows precedence and has the symbols of the tokens, and the list of its
  sub-formulas.
* `eq_of_symbols_eq` — symbols determine the formula, if it follows precedence.
* `exists_parseTokens_eq_ok` — the symbols of any formula can be read.
-/

namespace TruthTables

namespace Reader

/-! ### The symbols read -/

/-- The symbols of a left operand that waits for its right one. -/
def waiting (op : Connective) : Option Formula → List Symbol
  | none => []
  | some l => l.symbols ++ [.op op]

/-- The symbols that a reader has read. -/
def consumed : Reader → List Symbol
  | operand i d c n _ =>
    waiting .implies i ++ waiting .or d ++ waiting .and c ++ List.replicate n .neg
  | operator i d x => waiting .implies i ++ waiting .or d ++ x.formula.symbols

theorem symbols_joinTo (op : Connective) (w : Option Formula) (x : Reading) :
    (x.joinTo op w).formula.symbols = waiting op w ++ x.formula.symbols := by
  cases w with
  | none => rfl
  | some l => simp [Reading.node, waiting]

theorem symbols_negate : ∀ (n : Nat) (x : Reading),
    (x.negate n).formula.symbols = List.replicate n .neg ++ x.formula.symbols := by
  intro n
  induction n with
  | zero => intro x; rfl
  | succ n ih =>
    intro x
    rw [Reading.negate_succ, ih, List.replicate_succ', Reading.node, Formula.symbols_neg,
      List.append_assoc, List.singleton_append]

/-- **No symbol is lost**: a step adds the symbol of its token to those read. -/
theorem consumed_step {r r' : Reader} {t : Token} (h : r.step t = .ok r') :
    r'.consumed = r.consumed ++ [t.symbol] := by
  have hsteps := steps_of_step h
  generalize t.symbol = s at hsteps ⊢
  cases hsteps with
  | atom i d c n built a => simp [consumed, symbols_joinTo, symbols_negate, Reading.node]
  | neg i d c n built => simp [consumed, List.replicate_succ']
  | and i d x => simp [consumed, waiting]
  | or i d x => simp [consumed, waiting, symbols_joinTo]
  | implies i d x => simp [consumed, waiting, symbols_joinTo]

/-- The end of the tokens gives a formula with the symbols read. -/
theorem symbols_of_finish {r : Reader} {x : Reading} (h : r.finish = .ok x) :
    x.formula.symbols = r.consumed := by
  cases r with
  | operand i d c n built => cases h
  | operator i d y =>
    obtain rfl := Except.ok.inj h
    simp [consumed, symbols_joinTo]

/-! ### Precedence -/

/-- A left operand that waits for the right operand of `op` is fit for its place. -/
def Waits (op : Connective) (w : Option Formula) : Prop :=
  ∀ l ∈ w, l.level ≤ op.level ∧ l.FollowsPrecedence

/-- All operands in a reader are fit for their places.  The one at hand is no
looser than a conjunction, as if it waited for the next conjunct. -/
def Sound : Reader → Prop
  | operand i d c _ _ => Waits .implies i ∧ Waits .or d ∧ Waits .and c
  | operator i d x => Waits .implies i ∧ Waits .or d ∧ Waits .and (some x.formula)

theorem waits_none (op : Connective) : Waits op none := by simp [Waits]

theorem waits_some {op : Connective} {l : Formula} :
    Waits op (some l) ↔ l.level ≤ op.level ∧ l.FollowsPrecedence := by simp [Waits]

/-- Joining an operand to the one before it gives an operand fit to wait for a
connective of the same level. -/
theorem waits_joinTo {op : Connective} {w : Option Formula} {x : Reading} (hw : Waits op w)
    (hlevel : x.formula.level < op.level) (hx : x.formula.FollowsPrecedence) :
    Waits op (some (x.joinTo op w).formula) := by
  cases w with
  | none => exact waits_some.mpr ⟨Nat.le_of_lt hlevel, hx⟩
  | some l =>
    obtain ⟨hl, hfl⟩ := waits_some.mp hw
    exact waits_some.mpr ⟨Nat.le_refl _, hl, hlevel, hfl, hx⟩

/-- What may wait for a connective may be joined as operand of a looser one. -/
theorem waits_joinTo_of_waits {op op' : Connective} {w : Option Formula} {x : Reading}
    (hw : Waits op w) (hlevel : op'.level < op.level) (hx : Waits op' (some x.formula)) :
    Waits op (some (x.joinTo op w).formula) := by
  obtain ⟨hle, hfx⟩ := waits_some.mp hx
  exact waits_joinTo hw (Nat.lt_of_le_of_lt hle hlevel) hfx

section Joined

variable {i d : Option Formula} {x : Reading} (hi : Waits .implies i) (hd : Waits .or d)
  (hx : Waits .and (some x.formula))

include hd hx

/-- The operand at hand, joined to the disjuncts before it, is fit to wait for another. -/
theorem waits_or : Waits .or (some (x.joinTo .or d).formula) :=
  waits_joinTo_of_waits hd (by decide) hx

include hi

/-- Joined to all that waits, it is fit to be the left operand of an implication. -/
theorem waits_implies : Waits .implies (some ((x.joinTo .or d).joinTo .implies i).formula) :=
  waits_joinTo_of_waits hi (by decide) (waits_or hd hx)

end Joined

theorem level_negate : ∀ (n : Nat) (x : Reading), x.formula.level = 0 →
    x.formula.FollowsPrecedence →
      (x.negate n).formula.level = 0 ∧ (x.negate n).formula.FollowsPrecedence := by
  intro n
  induction n with
  | zero => intro x hlevel hx; exact ⟨hlevel, hx⟩
  | succ n ih =>
    intro x hlevel hx
    exact ih (.node (.neg x.formula) x.built) rfl ⟨hlevel, hx⟩

/-- **Every step keeps all operands fit for their places.** -/
theorem sound_step {r r' : Reader} {t : Token} (hr : r.Sound) (h : r.step t = .ok r') :
    r'.Sound := by
  have hsteps := steps_of_step h
  generalize t.symbol = s at hsteps
  cases hsteps with
  | atom i d c n built a =>
    obtain ⟨hi, hd, hc⟩ := hr
    obtain ⟨hlevel, hx⟩ := level_negate n (.node (.atom a) built) rfl trivial
    refine ⟨hi, hd, waits_joinTo hc ?_ hx⟩
    rw [hlevel]
    exact Nat.one_pos
  | neg i d c n built => exact hr
  | and i d x => exact hr
  | or i d x =>
    obtain ⟨hi, hd, hx⟩ := hr
    exact ⟨hi, waits_or hd hx, waits_none .and⟩
  | implies i d x =>
    obtain ⟨hi, hd, hx⟩ := hr
    exact ⟨waits_implies hi hd hx, waits_none .or, waits_none .and⟩

theorem followsPrecedence_of_finish {r : Reader} {x : Reading} (hr : r.Sound)
    (h : r.finish = .ok x) : x.formula.FollowsPrecedence := by
  cases r with
  | operand i d c n built => cases h
  | operator i d y =>
    obtain rfl := Except.ok.inj h
    obtain ⟨hi, hd, hy⟩ := hr
    exact (waits_some.mp (waits_implies hi hd hy)).2

/-- **Soundness of a run**: what is read from a sound state follows precedence,
and has the symbols read before and those of the tokens. -/
theorem read_sound : ∀ (ts : List Token) (r : Reader) (x : Reading), r.Sound →
    r.read ts = .ok x →
      x.formula.FollowsPrecedence ∧ x.formula.symbols = r.consumed ++ ts.map Token.symbol := by
  intro ts
  induction ts with
  | nil =>
    intro r x hr h
    exact ⟨followsPrecedence_of_finish hr h, by rw [symbols_of_finish h]; simp⟩
  | cons t ts ih =>
    intro r x hr h
    rw [read_cons] at h
    cases hstep : r.step t with
    | error e => rw [hstep] at h; cases h
    | ok r' =>
      rw [hstep] at h
      obtain ⟨hprec, hsymbols⟩ := ih r' x (sound_step hr hstep) h
      refine ⟨hprec, ?_⟩
      rw [hsymbols, consumed_step hstep, List.map_cons, List.append_assoc, List.singleton_append]

end Reader

/-! ### Reading a formula that follows precedence -/

namespace Reading

/-- A formula whose sub-formulas have just been built, after those in `built`. -/
def whole (f : Formula) (built : List Formula) : Reading := ⟨f, f.postorder.reverse ++ built⟩

@[simp] theorem formula_whole (f : Formula) (built : List Formula) :
    (whole f built).formula = f := rfl

theorem node_neg_whole (f : Formula) (built : List Formula) :
    node (.neg f) (whole f built).built = whole (.neg f) built := by
  simp [node, whole]

theorem node_bin_whole (op : Connective) (l r : Formula) (built : List Formula) :
    node (.bin op l r) (whole r (whole l built).built).built = whole (.bin op l r) built := by
  simp [node, whole]

end Reading

namespace Reader

open Reading

/-- Cutting the tokens of a negation. -/
private theorem exists_of_map_symbol_eq_cons {ts : List Token} {s : Symbol} {ss : List Symbol}
    (h : ts.map Token.symbol = s :: ss) :
    ∃ o us, ts = ⟨s, o⟩ :: us ∧ us.map Token.symbol = ss := by
  obtain ⟨⟨s', o⟩, us, rfl, rfl, hus⟩ := List.map_eq_cons_iff.mp h
  exact ⟨o, us, rfl, hus⟩

/-- Cutting the tokens of a formula at its outermost connective. -/
private theorem exists_of_map_symbol_eq_bin {ts : List Token} {op : Connective} {l r : Formula}
    (h : ts.map Token.symbol = (Formula.bin op l r).symbols) :
    ∃ ls o rs, ts = ls ++ ⟨.op op, o⟩ :: rs ∧ ls.map Token.symbol = l.symbols ∧
      rs.map Token.symbol = r.symbols := by
  obtain ⟨ls, us, rfl, hls, hus⟩ := List.map_eq_append_iff.mp h
  obtain ⟨o, rs, rfl, hrs⟩ := exists_of_map_symbol_eq_cons hus
  exact ⟨ls, o, rs, rfl, hls, hrs⟩

/-- Reading a variable or a negation, where signs of negation and a conjunction
may wait for it. -/
theorem read_unary {f : Formula} (hf : f.FollowsPrecedence) (hlevel : f.level = 0) :
    ∀ (ts : List Token), ts.map Token.symbol = f.symbols →
      ∀ (i d c : Option Formula) (n : Nat) (built : List Formula) (rest : List Token),
        read (operand i d c n built) (ts ++ rest)
          = read (operator i d (((whole f built).negate n).joinTo .and c)) rest := by
  induction f with
  | atom a =>
    intro ts hts i d c n built rest
    obtain ⟨o, us, rfl, hus⟩ := exists_of_map_symbol_eq_cons hts
    obtain rfl := List.map_eq_nil_iff.mp hus
    rfl
  | neg f ih =>
    intro ts hts i d c n built rest
    obtain ⟨hlevel', hf'⟩ := hf
    obtain ⟨o, us, rfl, hus⟩ := exists_of_map_symbol_eq_cons hts
    -- one sign of negation more waits for the operand
    have hread := ih hf' hlevel' us hus i d c (n + 1) built rest
    rw [negate_succ, formula_whole, node_neg_whole] at hread
    exact hread
  | bin op l r => cases op <;> cases hlevel

/-- Reading a formula no looser than a conjunction. -/
theorem read_conjunction {f : Formula} (hf : f.FollowsPrecedence) (hlevel : f.level ≤ 1) :
    ∀ (ts : List Token), ts.map Token.symbol = f.symbols →
      ∀ (i d : Option Formula) (built : List Formula) (rest : List Token),
        read (operand i d none 0 built) (ts ++ rest) = read (operator i d (whole f built)) rest := by
  induction f with
  | atom a =>
    intro ts hts i d built rest
    exact read_unary hf rfl ts hts i d none 0 built rest
  | neg f =>
    intro ts hts i d built rest
    exact read_unary hf rfl ts hts i d none 0 built rest
  | bin op l r ihl =>
    intro ts hts i d built rest
    obtain ⟨hl, hr, hfl, hfr⟩ := hf
    cases op with
    | and =>
      obtain ⟨ls, o, rs, rfl, hls, hrs⟩ := exists_of_map_symbol_eq_bin hts
      rw [List.append_assoc, ihl hfl hl ls hls, List.cons_append]
      -- the left operand waits while the right one is read
      have hread := read_unary hfr (Nat.lt_one_iff.mp hr) rs hrs i d (some l) 0
        (whole l built).built rest
      rw [negate_zero, joinTo_some, formula_whole, node_bin_whole] at hread
      exact hread
    | or => simp [Connective.level] at hlevel
    | implies => simp [Connective.level] at hlevel

/-- Reading a formula no looser than a disjunction.  Its last conjunction is not
yet joined to what comes before. -/
theorem read_disjunction {f : Formula} (hf : f.FollowsPrecedence) (hlevel : f.level ≤ 2) :
    ∀ (ts : List Token), ts.map Token.symbol = f.symbols →
      ∀ (i : Option Formula) (built : List Formula),
        ∃ d x, joinTo .or d x = whole f built ∧
          ∀ rest, read (operand i none none 0 built) (ts ++ rest) = read (operator i d x) rest := by
  induction f with
  | atom a =>
    intro ts hts i built
    exact ⟨none, whole (.atom a) built, rfl,
      read_conjunction hf (Nat.zero_le 1) ts hts i none built⟩
  | neg f =>
    intro ts hts i built
    exact ⟨none, whole (.neg f) built, rfl,
      read_conjunction hf (Nat.zero_le 1) ts hts i none built⟩
  | bin op l r ihl =>
    intro ts hts i built
    cases op with
    | and =>
      exact ⟨none, whole (.bin .and l r) built, rfl,
        read_conjunction hf (Nat.le_refl 1) ts hts i none built⟩
    | or =>
      obtain ⟨hl, hr, hfl, hfr⟩ := hf
      obtain ⟨ls, o, rs, rfl, hls, hrs⟩ := exists_of_map_symbol_eq_bin hts
      obtain ⟨d, x, hjoin, hread⟩ := ihl hfl hl ls hls i built
      refine ⟨some l, whole r (whole l built).built, ?_, fun rest => ?_⟩
      · rw [joinTo_some, formula_whole, node_bin_whole]
      · rw [List.append_assoc, hread, List.cons_append]
        -- the sign of disjunction joins the left operand, which then waits
        have hstep : (operator i d x).step ⟨.op .or, o⟩
            = .ok (operand i (some l) none 0 (whole l built).built) := by
          rw [step, hjoin, formula_whole]
        rw [read_cons, hstep]
        exact read_conjunction hfr (Nat.lt_succ_iff.mp hr) rs hrs i (some l)
          (whole l built).built rest
    | implies => simp [Connective.level] at hlevel

/-- Reading any formula that follows precedence.  Its last disjunction is not yet
joined to what comes before. -/
theorem read_implication {f : Formula} (hf : f.FollowsPrecedence) :
    ∀ (ts : List Token), ts.map Token.symbol = f.symbols → ∀ (built : List Formula),
      ∃ i d x, joinTo .implies i (joinTo .or d x) = whole f built ∧
        ∀ rest, read (operand none none none 0 built) (ts ++ rest) = read (operator i d x) rest := by
  induction f with
  | atom a =>
    intro ts hts built
    obtain ⟨d, x, hjoin, hread⟩ := read_disjunction hf (Nat.zero_le 2) ts hts none built
    exact ⟨none, d, x, hjoin, hread⟩
  | neg f =>
    intro ts hts built
    obtain ⟨d, x, hjoin, hread⟩ := read_disjunction hf (Nat.zero_le 2) ts hts none built
    exact ⟨none, d, x, hjoin, hread⟩
  | bin op l r ihl =>
    intro ts hts built
    by_cases hop : op.level ≤ 2
    · obtain ⟨d, x, hjoin, hread⟩ := read_disjunction hf hop ts hts none built
      exact ⟨none, d, x, hjoin, hread⟩
    · obtain rfl : op = .implies := by cases op <;> first | rfl | exact absurd (by decide) hop
      obtain ⟨-, hr, hfl, hfr⟩ := hf
      obtain ⟨ls, o, rs, rfl, hls, hrs⟩ := exists_of_map_symbol_eq_bin hts
      obtain ⟨i, d, x, hjoin, hread⟩ := ihl hfl ls hls built
      obtain ⟨d', y, hjoin', hread'⟩ := read_disjunction hfr (Nat.lt_succ_iff.mp hr) rs hrs (some l)
        (whole l built).built
      refine ⟨some l, d', y, ?_, fun rest => ?_⟩
      · rw [hjoin', joinTo_some, formula_whole, node_bin_whole]
      · rw [List.append_assoc, hread, List.cons_append]
        -- the sign of implication joins the left operand, which then waits
        have hstep : (operator i d x).step ⟨.op .implies, o⟩
            = .ok (operand (some l) none none 0 (whole l built).built) := by
          rw [step, hjoin, formula_whole]
        rw [read_cons, hstep]
        exact hread' rest

/-! ### Reading the symbols of any formula -/

/-- From any state that waits for an operand, the tokens of a formula lead to one
that waits for a connective, however the formula is grouped. -/
theorem exists_read_eq_operator (f : Formula) :
    ∀ (ts : List Token), ts.map Token.symbol = f.symbols →
      ∀ (i d c : Option Formula) (n : Nat) (built : List Formula),
        ∃ i' d' x, ∀ rest, read (operand i d c n built) (ts ++ rest) = read (operator i' d' x) rest := by
  induction f with
  | atom a =>
    intro ts hts i d c n built
    obtain ⟨o, us, rfl, hus⟩ := exists_of_map_symbol_eq_cons hts
    obtain rfl := List.map_eq_nil_iff.mp hus
    exact ⟨i, d, _, fun rest => rfl⟩
  | neg f ih =>
    intro ts hts i d c n built
    obtain ⟨o, us, rfl, hus⟩ := exists_of_map_symbol_eq_cons hts
    exact ih us hus i d c (n + 1) built
  | bin op l r ihl ihr =>
    intro ts hts i d c n built
    obtain ⟨ls, o, rs, rfl, hls, hrs⟩ := exists_of_map_symbol_eq_bin hts
    obtain ⟨i₁, d₁, x, hl⟩ := ihl ls hls i d c n built
    -- whichever connective it is, the next thing to come is an operand
    obtain ⟨i₂, d₂, c₂, n₂, built₂, hstep⟩ : ∃ i₂ d₂ c₂ n₂ built₂,
        (operator i₁ d₁ x).step ⟨.op op, o⟩ = .ok (operand i₂ d₂ c₂ n₂ built₂) := by
      cases op <;> exact ⟨_, _, _, _, _, rfl⟩
    obtain ⟨i₃, d₃, y, hr⟩ := ihr rs hrs i₂ d₂ c₂ n₂ built₂
    refine ⟨i₃, d₃, y, fun rest => ?_⟩
    rw [List.append_assoc, hl, List.cons_append, read_cons, hstep]
    exact hr rest

end Reader

/-! ### What reading tokens comes to -/

/-- A formula that follows precedence is read from tokens with its symbols, and
its sub-formulas are recorded in post-order. -/
theorem parseTokens_of_followsPrecedence {f : Formula} (hf : f.FollowsPrecedence)
    {ts : List Token} (hts : ts.map Token.symbol = f.symbols) :
    parseTokens ts = .ok ⟨f, f.postorder⟩ := by
  obtain ⟨i, d, x, hjoin, hread⟩ := Reader.read_implication hf ts hts []
  have hfinish : Reader.start.read ts = .ok (Reading.whole f []) := by
    rw [← List.append_nil ts, Reader.start, hread [], Reader.read_nil, Reader.finish, hjoin]
  rw [parseTokens_eq_read, hfinish]
  simp [Except.map, Reading.whole]

/-- What is read from tokens follows precedence and has their symbols. -/
theorem root_of_parseTokens {ts : List Token} {p : Parsed} (h : parseTokens ts = .ok p) :
    p.root.FollowsPrecedence ∧ p.root.symbols = ts.map Token.symbol := by
  have hstart : Reader.start.Sound :=
    ⟨Reader.waits_none _, Reader.waits_none _, Reader.waits_none _⟩
  rw [parseTokens_eq_read] at h
  cases hread : Reader.start.read ts with
  | error e => rw [hread] at h; cases h
  | ok x =>
    rw [hread] at h
    obtain rfl := Except.ok.inj h
    exact Reader.read_sound ts .start x hstart hread

/-- **What reading tokens comes to**: the formula that follows precedence and has
the symbols of the tokens, if there is one, with its sub-formulas in post-order. -/
theorem parseTokens_eq_ok_iff {ts : List Token} {p : Parsed} :
    parseTokens ts = .ok p ↔
      p.root.FollowsPrecedence ∧ p.root.symbols = ts.map Token.symbol ∧
        p.inventory = p.root.postorder := by
  constructor
  · intro h
    obtain ⟨hprec, hsymbols⟩ := root_of_parseTokens h
    -- reading the root once more gives its inventory
    have hagain := parseTokens_of_followsPrecedence hprec hsymbols.symm
    rw [h] at hagain
    exact ⟨hprec, hsymbols, congrArg Parsed.inventory (Except.ok.inj hagain)⟩
  · rintro ⟨hprec, hsymbols, hinventory⟩
    rw [parseTokens_of_followsPrecedence hprec hsymbols.symm, ← hinventory]

/-- **No two formulas that follow precedence have the same symbols.** -/
theorem eq_of_symbols_eq {f g : Formula} (hf : f.FollowsPrecedence) (hg : g.FollowsPrecedence)
    (h : f.symbols = g.symbols) : f = g := by
  -- both are what is read from the same tokens
  let ts : List Token := f.symbols.map fun s => ⟨s, 0⟩
  have hts : ts.map Token.symbol = f.symbols := by
    rw [List.map_map]
    exact List.map_id' f.symbols
  have hreadf := parseTokens_of_followsPrecedence hf hts
  rw [parseTokens_of_followsPrecedence hg (hts.trans h)] at hreadf
  exact (congrArg Parsed.root (Except.ok.inj hreadf)).symm

/-- **The symbols of any formula can be read**, though not always as that formula. -/
theorem exists_parseTokens_eq_ok {f : Formula} {ts : List Token}
    (hts : ts.map Token.symbol = f.symbols) : ∃ p, parseTokens ts = .ok p := by
  obtain ⟨i, d, x, hread⟩ := Reader.exists_read_eq_operator f ts hts none none none 0 []
  have hfinish := hread []
  rw [List.append_nil, Reader.read_nil, Reader.finish] at hfinish
  rw [parseTokens_eq_read, Reader.start, hfinish]
  exact ⟨_, rfl⟩

/-- **Reading is sound, complete and unambiguous.**  Tokens can be read exactly if
some formula that follows precedence is written with their symbols, offsets
aside; what is read is such a formula, and there is no other. -/
theorem parseTokens_reads_unique_formula (ts : List Token) :
    ((∃ p, parseTokens ts = .ok p) ↔
      ∃ f : Formula, f.FollowsPrecedence ∧ f.symbols = ts.map Token.symbol) ∧
    ∀ p, parseTokens ts = .ok p →
      p.root.FollowsPrecedence ∧ p.root.symbols = ts.map Token.symbol ∧
        ∀ f : Formula, f.FollowsPrecedence → f.symbols = ts.map Token.symbol → f = p.root := by
  refine ⟨⟨?_, ?_⟩, ?_⟩
  · rintro ⟨p, hp⟩
    exact ⟨p.root, root_of_parseTokens hp⟩
  · rintro ⟨f, hf, hsymbols⟩
    exact ⟨_, parseTokens_of_followsPrecedence hf hsymbols.symm⟩
  · intro p hp
    obtain ⟨hprec, hsymbols⟩ := root_of_parseTokens hp
    exact ⟨hprec, hsymbols, fun f hf hfs => eq_of_symbols_eq hf hprec (hfs.trans hsymbols.symm)⟩

/-- A repeated implication groups to the left and in no other way; a variable may
have a sign as its name, and offsets need not be in order. -/
theorem parseTokens_reads_unique_formula_of_implications :
    let ts : List Token := [⟨.atom 'A', 7⟩, ⟨.op .implies, 0⟩, ⟨.neg, 3⟩, ⟨.atom '→', 3⟩,
      ⟨.op .implies, 1⟩, ⟨.atom 'A', 2⟩]
    let root : Formula := .bin .implies (.bin .implies (.atom 'A') (.neg (.atom '→'))) (.atom 'A')
    parseTokens ts = .ok ⟨root, root.postorder⟩ ∧
      ∀ f : Formula, f.FollowsPrecedence → f.symbols = ts.map Token.symbol → f = root := by
  intro ts root
  have hread : parseTokens ts = .ok ⟨root, root.postorder⟩ := by
    rw [parseTokens_eq_read]
    rfl
  exact ⟨hread, ((parseTokens_reads_unique_formula ts).2 _ hread).2.2⟩

end TruthTables
