import Mathlib.Data.List.Perm.Subperm
import TruthTables.Token.Limit
import TruthTables.Proofs.Formula.Reader
import TruthTables.Proofs.Names

/-!
# The limits of a formula

The limits are checked on tokens, before anything is read, and whether or not there is anything to
read.  So the check cannot see more than which symbols there are and how many of each: in another
order, or read at other places, the tokens have the same answer.  Both counts can only grow when
tokens are added, and therefore a limit that is exceeded stays exceeded.

Where the tokens do make a formula, the limits are limits of this formula, since reading neither
drops a symbol nor repeats one: its variables are the names among the tokens, and its operators
are the operators among them.

## Main definitions

* `IsLimitCheck check` — what is asked of a check against the limits.

## Main results

* `checkLimits_of_perm`, `checkLimits_eq_ok_of_subperm` — the check of the same symbols in another
  order, and of fewer symbols.
* `checkLimits_of_symbols` — the check of tokens, told from the formula that they write.
* `checkLimits_eq_ok_iff_of_symbols` — tokens pass the check exactly if the
  formula with their symbols has few enough variables and operators.
* `checkLimits_isLimitCheck` — all of this, for any tokens.
-/

namespace TruthTables

/-! ### What is counted -/

namespace Symbol

theorem name?_eq_some_iff {s : Symbol} {c : Char} : s.name? = some c ↔ s = .atom c := by
  cases s <;> simp [name?]

/-- What has no name is an operator. -/
theorem isNone_name? (s : Symbol) : s.name?.isNone = s.isOperator := by
  cases s <;> rfl

end Symbol

/-- A variable is told by its symbol, whatever character its name is. -/
theorem mem_tokenNames {ts : List Token} {c : Char} :
    c ∈ tokenNames ts ↔ .atom c ∈ ts.map Token.symbol := by
  unfold tokenNames
  rw [Names.mem_ofList, List.mem_filterMap, List.mem_map]
  simp only [Symbol.name?_eq_some_iff]

theorem operatorTokens_eq_countP (ts : List Token) :
    operatorTokens ts = (ts.map Token.symbol).countP Symbol.isOperator := by
  unfold operatorTokens
  rw [List.countP_map]
  rfl

/-! ### The same symbols and more -/

section Symbols

variable {ts us : List Token}

/-- **Neither the order of the tokens nor the places where they stand count.** -/
theorem checkLimits_of_perm (h : (us.map Token.symbol).Perm (ts.map Token.symbol)) :
    checkLimits us = checkLimits ts := by
  have hnames : tokenNames us = tokenNames ts := by
    apply Names.eq_of_mem_iff
    intro c
    rw [mem_tokenNames, mem_tokenNames, h.mem_iff]
  have hoperators : operatorTokens us = operatorTokens ts := by
    rw [operatorTokens_eq_countP, operatorTokens_eq_countP, h.countP_eq]
  unfold checkLimits
  rw [hnames, hoperators]

/-- **Tokens that keep to the limits do so with some of them left out.** -/
theorem checkLimits_eq_ok_of_subperm (h : (ts.map Token.symbol).Subperm (us.map Token.symbol))
    (hus : checkLimits us = .ok ()) : checkLimits ts = .ok () := by
  have hnames : (tokenNames ts).size ≤ (tokenNames us).size := by
    apply Names.size_le_of_subset
    intro c hc
    rw [mem_tokenNames] at hc ⊢
    exact h.subset hc
  have hoperators : operatorTokens ts ≤ operatorTokens us := by
    rw [operatorTokens_eq_countP, operatorTokens_eq_countP]
    exact h.countP_le _
  rw [checkLimits_eq_ok_iff] at hus ⊢
  omega

/-- **A limit that is exceeded stays exceeded** whatever tokens are added. -/
theorem exists_checkLimits_eq_error_of_subperm
    (h : (ts.map Token.symbol).Subperm (us.map Token.symbol))
    (hts : ∃ e, checkLimits ts = .error e) : ∃ e, checkLimits us = .error e := by
  obtain ⟨e, he⟩ := hts
  cases hus : checkLimits us with
  | error e' => exact ⟨e', rfl⟩
  | ok u =>
    rw [checkLimits_eq_ok_of_subperm h hus] at he
    cases he

end Symbols

/-! ### The limits of a formula -/

section Formula

variable {ts : List Token} {f : Formula} (h : f.symbols = ts.map Token.symbol)

include h

theorem tokenNames_eq_vars : tokenNames ts = f.vars := by
  rw [tokenNames, Formula.vars, Formula.letters_eq_filterMap_name?, h, List.filterMap_map]
  rfl

theorem operatorTokens_eq_operatorCount : operatorTokens ts = f.operatorCount := by
  rw [operatorTokens_eq_countP, Formula.operatorCount_eq_countP, h]

/-- What the check of tokens comes to, told from the formula that they write. -/
theorem checkLimits_of_symbols :
    checkLimits ts =
      if 3 < f.vars.size then .error (.tooManyVariables f.vars.size 3)
      else if 4 < f.operatorCount then .error (.tooManyOperators f.operatorCount 4)
      else .ok () := by
  rw [checkLimits, tokenNames_eq_vars h, operatorTokens_eq_operatorCount h]
  rfl

/-- **Limits on tokens are limits on the formula** that they write. -/
theorem checkLimits_eq_ok_iff_of_symbols :
    checkLimits ts = .ok () ↔ f.vars.size ≤ maxVariables ∧ f.operatorCount ≤ maxOperators := by
  rw [checkLimits_eq_ok_iff, tokenNames_eq_vars h, operatorTokens_eq_operatorCount h]

end Formula

/-! ### The check -/

/-- What is asked of a check of tokens against the limits. -/
structure IsLimitCheck (check : List Token → Except LimitError Unit) : Prop where
  /-- The same symbols in another order and with other offsets have the same answer. -/
  of_perm : ∀ ts us, (us.map Token.symbol).Perm (ts.map Token.symbol) → check us = check ts
  /-- If some tokens are turned down, so is whatever has their symbols and others among them. -/
  of_subperm : ∀ ts us, (ts.map Token.symbol).Subperm (us.map Token.symbol) →
    (∃ e, check ts = .error e) → ∃ e, check us = .error e
  /-- Of the variables each name counts once, and each token that is no variable counts.  The sign
  of an operator is a name like any other: as a name it is no operator. -/
  counts : ∀ ts, ∃ cs : List Char, cs.Nodup ∧ (∀ c, c ∈ cs ↔ .atom c ∈ ts.map Token.symbol) ∧
    check ts =
      if 3 < cs.length then .error (.tooManyVariables cs.length 3)
      else if 4 < ts.countP (·.symbol.name?.isNone) then
        .error (.tooManyOperators (ts.countP (·.symbol.name?.isNone)) 4)
      else .ok ()
  /-- Tokens of a formula pass if it has at most three variables and four operators. -/
  ok_iff : ∀ ts p, parseTokens ts = .ok p →
    (check ts = .ok () ↔ p.root.vars.size ≤ 3 ∧ p.root.operatorCount ≤ 4)
  /-- If the formula has too many variables, their number is told. -/
  tooManyVariables : ∀ ts p, parseTokens ts = .ok p → 3 < p.root.vars.size →
    check ts = .error (.tooManyVariables p.root.vars.size 3)
  /-- If it has too many operators only, the number of these is told. -/
  tooManyOperators : ∀ ts p, parseTokens ts = .ok p → p.root.vars.size ≤ 3 →
    4 < p.root.operatorCount → check ts = .error (.tooManyOperators p.root.operatorCount 4)

/-- **The limits on tokens are those of the formula**, if there is one, and in any case depend on
nothing but which symbols there are, and get no easier to keep with more of them. -/
theorem checkLimits_isLimitCheck : IsLimitCheck checkLimits where
  of_perm := fun _ _ h => checkLimits_of_perm h
  of_subperm := fun _ _ h => exists_checkLimits_eq_error_of_subperm h
  counts := by
    intro ts
    have hoperators : operatorTokens ts = ts.countP (·.symbol.name?.isNone) := by
      simp only [Symbol.isNone_name?]
      rfl
    refine ⟨(tokenNames ts).toList, (tokenNames ts).nodup_toList, fun c => mem_tokenNames, ?_⟩
    rw [← hoperators]
    rfl
  ok_iff := fun _ _ hread =>
    checkLimits_eq_ok_iff_of_symbols (root_of_parseTokens hread).2
  tooManyVariables := by
    intro ts p hread hvars
    rw [checkLimits_of_symbols (root_of_parseTokens hread).2, if_pos hvars]
  tooManyOperators := by
    intro ts p hread hvars hoperators
    rw [checkLimits_of_symbols (root_of_parseTokens hread).2, if_neg (Nat.not_lt.mpr hvars),
      if_pos hoperators]

/-- Signs are names here, of which two are few enough and four are too many, with five signs of
negation that are too many wherever they stand. -/
theorem checkLimits_isLimitCheck_of_signs :
    let ts : List Token := [⟨.atom '∧', 7⟩, ⟨.op .or, 0⟩, ⟨.neg, 3⟩, ⟨.atom '~', 3⟩]
    let us : List Token := [⟨.atom '~', 0⟩, ⟨.neg, 1⟩, ⟨.op .or, 2⟩, ⟨.atom '∧', 3⟩]
    let vs : List Token := [⟨.atom '∧', 0⟩, ⟨.op .and, 1⟩, ⟨.atom '→', 2⟩, ⟨.op .and, 3⟩,
      ⟨.atom '~', 4⟩, ⟨.op .and, 5⟩, ⟨.atom '∨', 6⟩]
    let ws : List Token := [⟨.neg, 0⟩, ⟨.neg, 1⟩, ⟨.neg, 2⟩, ⟨.neg, 3⟩, ⟨.neg, 4⟩, ⟨.atom '~', 5⟩]
    checkLimits ts = .ok () ∧ checkLimits us = .ok () ∧
      checkLimits vs = .error (.tooManyVariables 4 3) ∧
      checkLimits ws = .error (.tooManyOperators 5 4) ∧ ∃ e, checkLimits (us ++ ws) = .error e := by
  intro ts us vs ws
  obtain ⟨hperm, hsubperm, -, hok, hvariables, hoperators⟩ := checkLimits_isLimitCheck
  have hts : checkLimits ts = .ok () := by
    let f : Formula := .bin .or (.atom '∧') (.neg (.atom '~'))
    have hread : parseTokens ts = .ok ⟨f, f.postorder⟩ :=
      parseTokens_of_followsPrecedence (by decide) rfl
    exact (hok ts _ hread).mpr (by decide)
  have hvs : checkLimits vs = .error (.tooManyVariables 4 3) := by
    let f : Formula :=
      .bin .and (.bin .and (.bin .and (.atom '∧') (.atom '→')) (.atom '~')) (.atom '∨')
    have hread : parseTokens vs = .ok ⟨f, f.postorder⟩ :=
      parseTokens_of_followsPrecedence (by decide) rfl
    exact hvariables vs _ hread (by decide)
  have hws : checkLimits ws = .error (.tooManyOperators 5 4) := by
    let f : Formula := .neg (.neg (.neg (.neg (.neg (.atom '~')))))
    have hread : parseTokens ws = .ok ⟨f, f.postorder⟩ :=
      parseTokens_of_followsPrecedence (by decide) rfl
    exact hoperators ws _ hread (by decide) (by decide)
  refine ⟨hts, ?_, hvs, hws, ?_⟩
  · rw [hperm ts us (by decide), hts]
  · apply hsubperm ws (us ++ ws) _ ⟨_, hws⟩
    rw [List.map_append]
    exact (List.sublist_append_right _ _).subperm

end TruthTables
