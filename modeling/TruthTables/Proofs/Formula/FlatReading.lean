import TruthTables.Formula.Eval
import TruthTables.Proofs.Assignment.Lookup
import TruthTables.Proofs.Formula.Reader
import TruthTables.Proofs.Token.Limits

/-!
# Reading a formula without its tree

What a formula says can be told without any grouping.  Its symbols are cut at the
signs of implication into segments, each segment at the signs of disjunction into
pieces, and each piece at the signs of conjunction into literals, which are a
variable after some signs of negation.  A piece is true when all of its literals
are, a segment when one of its pieces is, and the segments are joined by
implication from the left.

That this agrees with reading a tree and evaluating it comes down to one fact, for
all three connectives alike.  Let `f` follow precedence and bind no looser than
`op`.  Then cutting the symbols of `f` at `op` gives the symbols of the operands of
the chain of `op` at the top of `f` (`cut_symbols`), and the value of `f` is the
values of these operands joined by `op` from the left (`truth_eq_chain`).

## Main definitions

* `cut op ss` — what stands between the signs of `op` in `ss`.
* `literalValue`, `pieceValue`, `segmentValue`, `flatValue` — the values of parts of
  a sequence of symbols, and of all of it.
* `literals ss` — the literals of all pieces of all segments.
* `Formula.chainOperands op f` — the operands of the chain of `op` at the top of `f`.
* `Connective.chain op bs` — truth values joined by `op` from the left.

## Main results

* `Formula.flatValue_symbols` — **the value of a formula is that of its symbols.**
* `eval_eq_flatValue` — the same of what is read from tokens, under an assignment.
-/

namespace TruthTables

/-! ### Values of symbols -/

/-- What stands between the signs of a connective. -/
def cut (op : Connective) (ss : List Symbol) : List (List Symbol) := ss.splitOn (.op op)

/-- The value of a literal: that of its variable, negated if the number of signs of
negation is odd. -/
def literalValue (v : Char → Bool) (ss : List Symbol) : Bool :=
  match ss.getLast? with
  | some (.atom x) => if ss.count .neg % 2 = 1 then !v x else v x
  | _ => false

/-- A piece is true when all of its literals are. -/
def pieceValue (v : Char → Bool) (ss : List Symbol) : Bool := (cut .and ss).all (literalValue v)

/-- A segment is true when one of its pieces is. -/
def segmentValue (v : Char → Bool) (ss : List Symbol) : Bool := (cut .or ss).any (pieceValue v)

/-- The value of all symbols: those of the segments, joined by implication from the
left. -/
def flatValue (v : Char → Bool) (ss : List Symbol) : Bool :=
  match (cut .implies ss).map (segmentValue v) with
  | [] => true
  | b :: bs => bs.foldl (fun acc s => !acc || s) b

/-- The literals of all pieces of all segments. -/
def literals (ss : List Symbol) : List (List Symbol) :=
  (cut .implies ss).flatMap fun segment => (cut .or segment).flatMap (cut .and)

theorem cut_of_notMem {op : Connective} {ss : List Symbol} (h : .op op ∉ ss) : cut op ss = [ss] :=
  List.splitOn_eq_singleton h

theorem cut_append_op (op : Connective) (ss us : List Symbol) :
    cut op (ss ++ .op op :: us) = cut op ss ++ cut op us := by
  unfold cut
  rw [List.splitOn_eq_splitOnP, List.splitOn_eq_splitOnP, List.splitOn_eq_splitOnP,
    List.splitOnP_append_cons ss us (by simp)]

theorem literalValue_replicate (v : Char → Bool) (k : Nat) (x : Char) :
    literalValue v (List.replicate k .neg ++ [.atom x]) = if k % 2 = 1 then !v x else v x := by
  have hcount : (List.replicate k Symbol.neg ++ [Symbol.atom x]).count .neg = k := by
    rw [List.count_append, List.count_replicate_self, List.count_singleton]
    rfl
  rw [literalValue, List.getLast?_concat, hcount]

/-! ### Chains of one connective -/

namespace Connective

theorem level_pos (op : Connective) : 0 < op.level := by
  cases op <;> decide

/-- Truth values joined by a connective from the left. -/
def chain (op : Connective) : List Bool → Bool
  | [] => true
  | b :: bs => bs.foldl op.apply b

theorem chain_concat (op : Connective) {bs : List Bool} (hne : bs ≠ []) (b : Bool) :
    op.chain (bs ++ [b]) = op.apply (op.chain bs) b := by
  cases bs with
  | nil => exact absurd rfl hne
  | cons c cs =>
    show (cs ++ [b]).foldl op.apply c = op.apply (cs.foldl op.apply c) b
    rw [List.foldl_append, List.foldl_cons, List.foldl_nil]

/-- A chain of conjunctions is true when all of its members are. -/
theorem chain_and : ∀ bs : List Bool, chain .and bs = bs.all fun b => b := by
  have hfold : ∀ (bs : List Bool) (b : Bool), bs.foldl (apply .and) b = (b && bs.all fun b => b) := by
    intro bs
    induction bs with
    | nil => intro b; simp
    | cons c cs ih =>
      intro b
      rw [List.foldl_cons, ih, apply_and, List.all_cons, Bool.and_assoc]
  intro bs
  cases bs with
  | nil => rfl
  | cons b bs => exact hfold bs b

/-- A chain of disjunctions is true when one of its members is. -/
theorem chain_or {bs : List Bool} (hne : bs ≠ []) : chain .or bs = bs.any fun b => b := by
  have hfold : ∀ (bs : List Bool) (b : Bool), bs.foldl (apply .or) b = (b || bs.any fun b => b) := by
    intro bs
    induction bs with
    | nil => intro b; simp
    | cons c cs ih =>
      intro b
      rw [List.foldl_cons, ih, apply_or, List.any_cons, Bool.or_assoc]
  cases bs with
  | nil => exact absurd rfl hne
  | cons b bs => exact hfold bs b

end Connective

namespace Formula

/-- The operands of the chain of a connective at the top of a formula. -/
def chainOperands (op : Connective) : Formula → List Formula
  | atom c => [atom c]
  | neg f => [neg f]
  | bin op' l r => if op' = op then chainOperands op l ++ [r] else [bin op' l r]

theorem chainOperands_bin_self (op : Connective) (l r : Formula) :
    chainOperands op (bin op l r) = chainOperands op l ++ [r] := if_pos rfl

theorem chainOperands_bin_of_ne {op op' : Connective} (h : op' ≠ op) (l r : Formula) :
    chainOperands op (bin op' l r) = [bin op' l r] := if_neg h

theorem chainOperands_ne_nil (op : Connective) (f : Formula) : f.chainOperands op ≠ [] := by
  cases f with
  | atom c => simp [chainOperands]
  | neg f => simp [chainOperands]
  | bin op' l r =>
    by_cases h : op' = op
    · rw [h, chainOperands_bin_self]
      simp
    · simp [chainOperands_bin_of_ne h]

/-- **The value of a formula is a chain**: the values of the operands of a connective
at its top, joined from the left. -/
theorem truth_eq_chain (op : Connective) (v : Char → Bool) (f : Formula) :
    f.truth v = op.chain ((f.chainOperands op).map (truth v)) := by
  induction f with
  | atom c => rfl
  | neg f => rfl
  | bin op' l r ihl =>
    by_cases h : op' = op
    · subst h
      have hne : (l.chainOperands op').map (truth v) ≠ [] := by
        simpa using chainOperands_ne_nil op' l
      rw [chainOperands_bin_self, List.map_append, List.map_singleton, Connective.chain_concat op' hne,
        ← ihl, truth_bin]
    · rw [chainOperands_bin_of_ne h]
      rfl

/-! ### Cutting a formula that follows precedence -/

/-- No connective in a formula is looser than the outermost one. -/
theorem level_le_of_op_mem_symbols {f : Formula} (hf : f.FollowsPrecedence) {op : Connective}
    (h : .op op ∈ f.symbols) : op.level ≤ f.level := by
  induction f with
  | atom c => simp at h
  | neg f ih =>
    obtain ⟨hlevel, hf⟩ := hf
    have hmem : Symbol.op op ∈ f.symbols := by simpa using h
    have hle := ih hf hmem
    rw [hlevel] at hle
    exact hle
  | bin op' l r ihl ihr =>
    obtain ⟨hl, hr, hfl, hfr⟩ := hf
    rw [level_bin]
    rcases List.mem_append.mp h with h | h
    · exact Nat.le_trans (ihl hfl h) hl
    rcases List.mem_cons.mp h with h | h
    · exact Nat.le_of_eq (congrArg Connective.level (Symbol.op.inj h))
    · exact Nat.le_of_lt (Nat.lt_of_le_of_lt (ihr hfr h) hr)

/-- A formula tighter than a connective has nothing to cut. -/
theorem cut_symbols_of_level_lt {op : Connective} {f : Formula} (hf : f.FollowsPrecedence)
    (hlevel : f.level < op.level) : cut op f.symbols = [f.symbols] := by
  refine cut_of_notMem fun hmem => ?_
  have hle := level_le_of_op_mem_symbols hf hmem
  omega

/-- A formula no looser than a connective and with another one outside is tighter. -/
theorem level_lt_of_op_ne {op op' : Connective} {l r : Formula} (h : op' ≠ op)
    (hlevel : (bin op' l r).level ≤ op.level) : (bin op' l r).level < op.level :=
  Nat.lt_of_le_of_ne hlevel fun heq => h (Connective.eq_of_level_eq heq)

/-- **Cutting at a connective finds the operands of its chain.** -/
theorem cut_symbols {op : Connective} {f : Formula} (hf : f.FollowsPrecedence)
    (hlevel : f.level ≤ op.level) : cut op f.symbols = (f.chainOperands op).map symbols := by
  induction f with
  | atom c => exact cut_symbols_of_level_lt hf op.level_pos
  | neg f => exact cut_symbols_of_level_lt hf op.level_pos
  | bin op' l r ihl =>
    by_cases h : op' = op
    · subst h
      obtain ⟨hl, hr, hfl, hfr⟩ := hf
      rw [symbols_bin, cut_append_op, ihl hfl hl, cut_symbols_of_level_lt hfr hr,
        chainOperands_bin_self, List.map_append, List.map_singleton]
    · rw [chainOperands_bin_of_ne h, cut_symbols_of_level_lt hf (level_lt_of_op_ne h hlevel)]
      rfl

/-- The operands of a chain are tighter than its connective. -/
theorem of_mem_chainOperands {op : Connective} {f : Formula} (hf : f.FollowsPrecedence)
    (hlevel : f.level ≤ op.level) :
    ∀ g ∈ f.chainOperands op, g.FollowsPrecedence ∧ g.level < op.level := by
  induction f with
  | atom c =>
    intro g hg
    obtain rfl := List.mem_singleton.mp hg
    exact ⟨hf, op.level_pos⟩
  | neg f =>
    intro g hg
    obtain rfl := List.mem_singleton.mp hg
    exact ⟨hf, op.level_pos⟩
  | bin op' l r ihl =>
    intro g hg
    by_cases h : op' = op
    · subst h
      obtain ⟨hl, hr, hfl, hfr⟩ := hf
      rw [chainOperands_bin_self] at hg
      rcases List.mem_append.mp hg with hg | hg
      · exact ihl hfl hl g hg
      · obtain rfl := List.mem_singleton.mp hg
        exact ⟨hfr, hr⟩
    · rw [chainOperands_bin_of_ne h] at hg
      obtain rfl := List.mem_singleton.mp hg
      exact ⟨hf, level_lt_of_op_ne h hlevel⟩

theorem exists_of_mem_cut {op : Connective} {f : Formula} (hf : f.FollowsPrecedence)
    (hlevel : f.level ≤ op.level) {ss : List Symbol} (h : ss ∈ cut op f.symbols) :
    ∃ g : Formula, g.symbols = ss ∧ g.FollowsPrecedence ∧ g.level < op.level := by
  rw [cut_symbols hf hlevel] at h
  obtain ⟨g, hg, rfl⟩ := List.mem_map.mp h
  exact ⟨g, rfl, of_mem_chainOperands hf hlevel g hg⟩

/-! ### The value of a formula by its symbols -/

/-- A formula without a connective outside is a literal. -/
theorem exists_symbols_eq_literal {f : Formula} (hf : f.FollowsPrecedence) (hlevel : f.level = 0) :
    ∃ k x, f.symbols = List.replicate k .neg ++ [.atom x] ∧
      ∀ v : Char → Bool, f.truth v = if k % 2 = 1 then !v x else v x := by
  induction f with
  | atom x => exact ⟨0, x, rfl, fun v => rfl⟩
  | neg f ih =>
    obtain ⟨k, x, hsymbols, htruth⟩ := ih hf.2 hf.1
    refine ⟨k + 1, x, ?_, fun v => ?_⟩
    · rw [symbols_neg, hsymbols, List.replicate_succ, List.cons_append]
    · rw [truth_neg, htruth v]
      rcases Nat.mod_two_eq_zero_or_one k with hk | hk
      · have hk' : (k + 1) % 2 = 1 := by omega
        simp [hk, hk']
      · have hk' : (k + 1) % 2 = 0 := by omega
        simp [hk, hk']
  | bin op l r => cases op <;> cases hlevel

/-- Joining the values of the operands of `op`, told by their symbols, gives the value
of the formula. -/
theorem chain_cut_symbols {op : Connective} {value : List Symbol → Bool} {v : Char → Bool}
    (hvalue : ∀ g : Formula, g.FollowsPrecedence → g.level < op.level → value g.symbols = g.truth v)
    {f : Formula} (hf : f.FollowsPrecedence) (hlevel : f.level ≤ op.level) :
    op.chain ((cut op f.symbols).map value) = f.truth v := by
  have hmap : (f.chainOperands op).map (fun g => value g.symbols) = (f.chainOperands op).map (truth v) := by
    refine List.map_congr_left fun g hg => ?_
    obtain ⟨hg', hlt⟩ := of_mem_chainOperands hf hlevel g hg
    exact hvalue g hg' hlt
  rw [cut_symbols hf hlevel, List.map_map, truth_eq_chain op v f, ← hmap]
  rfl

theorem level_le_level_implies (f : Formula) : f.level ≤ Connective.implies.level := by
  cases f with
  | atom c => exact Nat.zero_le 3
  | neg f => exact Nat.zero_le 3
  | bin op l r =>
    rw [level_bin]
    cases op <;> decide

section Values

variable {f : Formula} (hf : f.FollowsPrecedence) (v : Char → Bool)

include hf

theorem literalValue_symbols (hlevel : f.level < Connective.and.level) :
    literalValue v f.symbols = f.truth v := by
  obtain ⟨k, x, hsymbols, htruth⟩ := exists_symbols_eq_literal hf (Nat.lt_one_iff.mp hlevel)
  rw [hsymbols, literalValue_replicate, htruth]

theorem pieceValue_symbols (hlevel : f.level < Connective.or.level) :
    pieceValue v f.symbols = f.truth v := by
  have hle : f.level ≤ Connective.and.level := Nat.lt_succ_iff.mp hlevel
  have hchain := chain_cut_symbols (fun _ hg => literalValue_symbols hg v) hf hle
  rw [Connective.chain_and, List.all_map] at hchain
  exact hchain

theorem segmentValue_symbols (hlevel : f.level < Connective.implies.level) :
    segmentValue v f.symbols = f.truth v := by
  have hle : f.level ≤ Connective.or.level := Nat.lt_succ_iff.mp hlevel
  have hchain := chain_cut_symbols (fun _ hg => pieceValue_symbols hg v) hf hle
  have hne : (cut .or f.symbols).map (pieceValue v) ≠ [] := by
    simp [cut_symbols hf hle, chainOperands_ne_nil]
  rw [Connective.chain_or hne, List.any_map] at hchain
  exact hchain

/-- **The value of a formula is that of its symbols**, if it follows precedence. -/
theorem flatValue_symbols : flatValue v f.symbols = f.truth v := by
  have hchain := chain_cut_symbols (fun _ hg => segmentValue_symbols hg v) hf
    f.level_le_level_implies
  exact hchain

end Values

/-- The symbols of a formula that follows precedence fall into literals. -/
theorem isLiteral_of_mem_literals {f : Formula} (hf : f.FollowsPrecedence) :
    ∀ l ∈ literals f.symbols, ∃ k x, l = List.replicate k .neg ++ [.atom x] := by
  -- down through the chains of implications, disjunctions and conjunctions
  intro l hl
  obtain ⟨segment, hsegment, hl⟩ := List.mem_flatMap.mp hl
  obtain ⟨s, rfl, hs, hslevel⟩ := exists_of_mem_cut hf f.level_le_level_implies hsegment
  have hsle : s.level ≤ Connective.or.level := Nat.lt_succ_iff.mp hslevel
  obtain ⟨piece, hpiece, hl⟩ := List.mem_flatMap.mp hl
  obtain ⟨p, rfl, hp, hplevel⟩ := exists_of_mem_cut hs hsle hpiece
  have hple : p.level ≤ Connective.and.level := Nat.lt_succ_iff.mp hplevel
  obtain ⟨g, rfl, hg, hglevel⟩ := exists_of_mem_cut hp hple hl
  obtain ⟨k, x, hsymbols, -⟩ := exists_symbols_eq_literal hg (Nat.lt_one_iff.mp hglevel)
  exact ⟨k, x, hsymbols⟩

end Formula

/-! ### What is read from tokens -/

/-- **The value of what is read from tokens, without its tree.**  Tokens that can be
read fall into literals.  If an assignment has a value for each name among them, the
formula has one under it, and this is the value of the symbols. -/
theorem eval_eq_flatValue {ts : List Token} {p : Parsed} {a : Assignment} {v : Char → Bool}
    (hp : parseTokens ts = .ok p) (hv : ∀ c ∈ tokenNames ts, a.get? c = some (v c)) :
    (∀ l ∈ literals (ts.map Token.symbol), ∃ k x, l = List.replicate k .neg ++ [.atom x]) ∧
      p.root.eval a = .ok (flatValue v (ts.map Token.symbol)) := by
  obtain ⟨hprec, hsymbols⟩ := root_of_parseTokens hp
  rw [← hsymbols]
  refine ⟨Formula.isLiteral_of_mem_literals hprec, ?_⟩
  have hbound : ∀ c ∈ p.root.letters, a.get? c = some (v c) := by
    intro c hc
    rw [tokenNames_eq_vars hsymbols] at hv
    exact hv c (Formula.mem_vars.mpr hc)
  rw [Formula.eval_eq_truth hbound, Formula.flatValue_symbols hprec]

/-- Segments are joined from the left: where no variable is true the whole is false,
while joined from the right it would be true. -/
theorem eval_eq_flatValue_of_implications :
    let ts : List Token := [⟨.atom 'A', 0⟩, ⟨.op .implies, 1⟩, ⟨.neg, 2⟩, ⟨.neg, 2⟩, ⟨.atom 'B', 3⟩,
      ⟨.op .and, 3⟩, ⟨.atom 'A', 4⟩, ⟨.op .implies, 5⟩, ⟨.atom 'A', 6⟩, ⟨.op .or, 7⟩, ⟨.atom 'B', 8⟩]
    let a := (tokenNames ts).assignment 3
    ∃ p, parseTokens ts = .ok p ∧
      (∀ c ∈ tokenNames ts, a.get? c = some ((tokenNames ts).valuation 3 c)) ∧
      p.root.eval a = .ok false := by
  intro ts a
  obtain ⟨p, hp⟩ : ∃ p, parseTokens ts = .ok p := by
    rw [parseTokens_eq_read]
    exact ⟨_, rfl⟩
  have hv : ∀ c ∈ tokenNames ts, a.get? c = some ((tokenNames ts).valuation 3 c) :=
    fun c hc => Names.get?_assignment hc 3
  refine ⟨p, hp, hv, ?_⟩
  have hflat : flatValue ((tokenNames ts).valuation 3) (ts.map Token.symbol) = false := by decide
  rw [(eval_eq_flatValue hp hv).2, hflat]

end TruthTables
