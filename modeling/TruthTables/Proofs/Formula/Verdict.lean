import TruthTables.LineError.Basic
import TruthTables.Proofs.Formula.Stepping

/-!
# Where reading fails

Whether tokens can be read, and with which error not, does not depend on
precedence.  It is settled by going through the tokens once from left to right
with a single bit of memory: whether an operand or a connective has to come.  The
first token that does not fit the bit is the error, and if there is none, the bit
left at the end decides.

A reader between two tokens knows much more than this bit: which operands wait,
and what has been built.  But none of that has a say in what comes next.  So every
step of a reader shows as a step of the scan (`phase_step`), and a whole run as a
whole scan (`read_verdict`).

## Main definitions

* `Phase` — what has to come next; `Phase.step` reads one token.
* `Phase.after q ts` — what has to come after the tokens `ts`.
* `Phase.verdict q ts` — the verdict of the scan on all tokens.

## Main results

* `Phase.exists_misfit_of_verdict_eq_error` — an error is that of the first token
  that does not fit.
* `parseTokens_eq_verdict` — **the verdict of the parser is that of the scan.**
-/

namespace TruthTables

/-- All offsets in an error: those of a token as well as the one that is told. -/
def GrammarError.offsets : GrammarError → List Nat
  | variableExpected offset => offset.toList
  | unexpected t offset => [t.offset, offset]

/-- What has to come next. -/
inductive Phase
  /-- A variable, perhaps after signs of negation. -/
  | operand
  /-- A connective, or the end of the tokens. -/
  | operator
  deriving DecidableEq, Repr

namespace Phase

/-- Reads one token. -/
def step : Phase → Token → Except GrammarError Phase
  | operand, ⟨.neg, _⟩ => .ok operand
  | operand, ⟨.atom _, _⟩ => .ok operator
  | operand, ⟨.op _, offset⟩ => .error (.variableExpected (some offset))
  | operator, ⟨.op _, _⟩ => .ok operand
  | operator, ⟨.atom name, offset⟩ => .error (.unexpected ⟨.atom name, offset⟩ offset)
  | operator, ⟨.neg, offset⟩ => .error (.unexpected ⟨.neg, offset⟩ offset)

/-- The end of the tokens. -/
def finish : Phase → Except GrammarError Unit
  | operand => .error (.variableExpected none)
  | operator => .ok ()

/-- Reads some tokens, which others may follow. -/
def after : Phase → List Token → Except GrammarError Phase
  | q, [] => .ok q
  | q, t :: ts =>
    match q.step t with
    | .error e => .error e
    | .ok q => after q ts

@[simp] theorem after_nil (q : Phase) : after q [] = .ok q := rfl

theorem after_cons (q : Phase) (t : Token) (ts : List Token) :
    after q (t :: ts) = match q.step t with
      | .error e => .error e
      | .ok q => after q ts := rfl

/-- The verdict on all tokens: the error of the first that does not fit, and
otherwise what the end of the tokens comes to. -/
def verdict (q : Phase) (ts : List Token) : Except GrammarError Unit :=
  match q.after ts with
  | .error e => .error e
  | .ok q => q.finish

@[simp] theorem verdict_nil (q : Phase) : verdict q [] = q.finish := rfl

theorem verdict_cons_error {q : Phase} {t : Token} {ts : List Token} {e : GrammarError}
    (h : q.step t = .error e) : verdict q (t :: ts) = .error e := by
  rw [verdict, after_cons, h]

theorem verdict_cons_ok {q q' : Phase} {t : Token} {ts : List Token} (h : q.step t = .ok q') :
    verdict q (t :: ts) = verdict q' ts := by
  rw [verdict, after_cons, h, verdict]

/-! ### The place of an error -/

/-- A token that does not fit is blamed at its own place. -/
theorem offset?_of_step_eq_error {q : Phase} {t : Token} {e : GrammarError}
    (h : q.step t = .error e) : e.offset? = some t.offset := by
  obtain ⟨s, o⟩ := t
  cases q with
  | operand =>
    cases s with
    | atom a => cases h
    | neg => cases h
    | op p =>
      obtain rfl := Except.error.inj h
      rfl
  | operator =>
    cases s with
    | atom a =>
      obtain rfl := Except.error.inj h
      rfl
    | neg =>
      obtain rfl := Except.error.inj h
      rfl
    | op p => cases h

/-- A token that comes in the place of a connective is blamed itself, at its own place. -/
theorem eq_of_step_eq_unexpected {q : Phase} {t x : Token} {n : Nat}
    (h : q.step t = .error (.unexpected x n)) : x = t ∧ n = t.offset := by
  obtain ⟨s, o⟩ := t
  cases q with
  | operand => cases s <;> cases h
  | operator =>
    cases s with
    | atom a =>
      obtain ⟨rfl, rfl⟩ := GrammarError.unexpected.inj (Except.error.inj h)
      exact ⟨rfl, rfl⟩
    | neg =>
      obtain ⟨rfl, rfl⟩ := GrammarError.unexpected.inj (Except.error.inj h)
      exact ⟨rfl, rfl⟩
    | op p => cases h

/-- Whatever offset is in the error of a token, it is that of the token. -/
theorem eq_of_mem_offsets {q : Phase} {t : Token} {e : GrammarError} (h : q.step t = .error e)
    {n : Nat} (hn : n ∈ e.offsets) : n = t.offset := by
  cases e with
  | variableExpected offset =>
    obtain rfl : offset = some t.offset := offset?_of_step_eq_error h
    exact List.mem_singleton.mp hn
  | unexpected x k =>
    obtain ⟨rfl, rfl⟩ := eq_of_step_eq_unexpected h
    simpa [GrammarError.offsets] using hn

/-- **An error is that of the first token that does not fit**, and names the place
of this token; or it is that of the end, if all tokens fit. -/
theorem exists_misfit_of_verdict_eq_error : ∀ (ts : List Token) (q : Phase) (e : GrammarError),
    q.verdict ts = .error e →
      (q.after ts = .ok .operand ∧ e = .variableExpected none) ∨
      ∃ us t vs q', ts = us ++ t :: vs ∧ q.after us = .ok q' ∧ q'.step t = .error e ∧
        e.offset? = some t.offset := by
  intro ts
  induction ts with
  | nil =>
    intro q e h
    cases q with
    | operand => exact .inl ⟨rfl, (Except.error.inj h).symm⟩
    | operator => cases h
  | cons t ts ih =>
    intro q e h
    cases hstep : q.step t with
    | error e' =>
      rw [verdict_cons_error hstep] at h
      obtain rfl := Except.error.inj h
      exact .inr ⟨[], t, ts, q, rfl, rfl, hstep, offset?_of_step_eq_error hstep⟩
    | ok q₁ =>
      rw [verdict_cons_ok hstep] at h
      -- what comes after `t` decides
      have hafter : ∀ us, q.after (t :: us) = q₁.after us := by
        intro us
        rw [after_cons, hstep]
      rcases ih q₁ e h with ⟨hall, he⟩ | ⟨us, u, vs, q', rfl, hus, hu, hoffset⟩
      · exact .inl ⟨(hafter ts).trans hall, he⟩
      · exact .inr ⟨t :: us, u, vs, q', rfl, (hafter us).trans hus, hu, hoffset⟩

end Phase

/-! ### What a reader and the scan have in common -/

namespace Reader

/-- What a reader waits for. -/
def phase : Reader → Phase
  | operand _ _ _ _ _ => .operand
  | operator _ _ _ => .operator

/-- **A step of a reader shows as a step of the scan**, errors included: the operands
that wait have no say in what comes next. -/
theorem phase_step (r : Reader) (t : Token) : (r.step t).map phase = r.phase.step t := by
  obtain ⟨s, o⟩ := t
  cases r with
  | operand i d c n built => cases s <;> rfl
  | operator i d x =>
    cases s with
    | atom a => rfl
    | neg => rfl
    | op p => cases p <;> rfl

theorem phase_finish (r : Reader) : r.finish.map (fun _ => ()) = r.phase.finish := by
  cases r <;> rfl

/-- **A run of a reader shows as a scan.** -/
theorem read_verdict : ∀ (ts : List Token) (r : Reader),
    (r.read ts).map (fun _ => ()) = r.phase.verdict ts := by
  intro ts
  induction ts with
  | nil => intro r; exact phase_finish r
  | cons t ts ih =>
    intro r
    have hphase := phase_step r t
    cases hstep : r.step t with
    | error e =>
      rw [hstep] at hphase
      have hread : r.read (t :: ts) = .error e := by rw [read_cons, hstep]
      rw [hread, Phase.verdict_cons_error hphase.symm]
      rfl
    | ok r' =>
      rw [hstep] at hphase
      have hread : r.read (t :: ts) = r'.read ts := by rw [read_cons, hstep]
      rw [hread, Phase.verdict_cons_ok hphase.symm]
      exact ih r'

end Reader

/-! ### The verdict of the parser -/

theorem map_parseTokens (ts : List Token) :
    (parseTokens ts).map (fun _ => ()) = Phase.operand.verdict ts := by
  have hread := Reader.read_verdict ts .start
  rw [parseTokens_eq_read]
  cases h : Reader.start.read ts with
  | error e =>
    rw [h] at hread
    exact hread
  | ok x =>
    rw [h] at hread
    exact hread

/-- A token that is blamed is one of the tokens that were read, and it is blamed at its own
place. -/
theorem mem_of_parseTokens_eq_unexpected {ts : List Token} {x : Token} {n : Nat}
    (h : parseTokens ts = .error (.unexpected x n)) : x ∈ ts ∧ n = x.offset := by
  have hverdict := map_parseTokens ts
  rw [h] at hverdict
  rcases Phase.exists_misfit_of_verdict_eq_error ts .operand _ hverdict.symm with
    ⟨-, he⟩ | ⟨us, t, vs, q, rfl, -, hstep, -⟩
  · cases he
  · obtain ⟨rfl, rfl⟩ := Phase.eq_of_step_eq_unexpected hstep
    exact ⟨List.mem_append_right us List.mem_cons_self, rfl⟩

/-- **The verdict of the parser is that of the scan**, on all tokens: it accepts what
the scan accepts, and else has the error with which the scan stops.  This is the
error of the first token that does not fit, told with its offset, or that of the
end. -/
theorem parseTokens_eq_verdict (ts : List Token) :
    ((∃ p, parseTokens ts = .ok p) ↔ Phase.operand.verdict ts = .ok ()) ∧
    (∀ e, parseTokens ts = .error e ↔ Phase.operand.verdict ts = .error e) ∧
    ∀ e, parseTokens ts = .error e →
      (Phase.operand.after ts = .ok .operand ∧ e = .variableExpected none) ∨
      ∃ us t vs q, ts = us ++ t :: vs ∧ Phase.operand.after us = .ok q ∧ q.step t = .error e ∧
        e.offset? = some t.offset := by
  have hmap := map_parseTokens ts
  cases hparse : parseTokens ts with
  | error e =>
    rw [hparse] at hmap
    have hverdict : Phase.operand.verdict ts = .error e := hmap.symm
    refine ⟨by simp [hverdict], fun e' => by simp [hverdict], fun e' he' => ?_⟩
    obtain rfl := Except.error.inj he'
    exact Phase.exists_misfit_of_verdict_eq_error ts .operand e hverdict
  | ok p =>
    rw [hparse] at hmap
    have hverdict : Phase.operand.verdict ts = .ok () := hmap.symm
    refine ⟨by simp [hverdict], fun e' => by simp [hverdict], fun e' he' => ?_⟩
    cases he'

/-- A negation after an operand is refused at its own offset, however much of a
formula was read before it and whatever else is wrong after it. -/
theorem parseTokens_eq_verdict_of_misplaced_negation :
    let ts : List Token := [⟨.neg, 4⟩, ⟨.atom '∧', 9⟩, ⟨.op .implies, 1⟩, ⟨.atom 'B', 2⟩,
      ⟨.neg, 7⟩, ⟨.op .and, 5⟩]
    parseTokens ts = .error (.unexpected ⟨.neg, 7⟩ 7) ∧ ¬ (∃ p, parseTokens ts = .ok p) ∧
      ∃ us t vs q, ts = us ++ t :: vs ∧ Phase.operand.after us = .ok q ∧
        q.step t = .error (.unexpected ⟨.neg, 7⟩ 7) ∧ t.offset = 7 := by
  intro ts
  obtain ⟨haccept, herror, hmisfit⟩ := parseTokens_eq_verdict ts
  have hparse : parseTokens ts = .error (.unexpected ⟨.neg, 7⟩ 7) := (herror _).mpr rfl
  refine ⟨hparse, fun h => ?_, ?_⟩
  · cases haccept.mp h
  · rcases hmisfit _ hparse with ⟨-, hend⟩ | ⟨us, t, vs, q, hts, hus, hstep, hoffset⟩
    · cases hend
    · exact ⟨us, t, vs, q, hts, hus, hstep, (Option.some.inj hoffset).symm⟩

end TruthTables
