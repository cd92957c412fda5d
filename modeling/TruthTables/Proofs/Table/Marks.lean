import TruthTables.Proofs.Formula.Renaming
import TruthTables.Proofs.Formula.Verdict
import TruthTables.Proofs.Table.Outcome

/-!
# What of a line matters

Of a line that is trimmed, the characters matter that are no white space, with their
order and their offsets.  If in another line these have other letters and stand at other
places, then each stage finds there what it finds here, with these letters and places.
So there is an error there if there is one here, or a table if there is a table; and
which letters there are, and how much white space is between them, is of no account for
this.

## Main definitions

* `LineError.map ρ φ e` — the error `e` with other names and offsets.
* `LineError.offsets e` — all offsets in the error `e`.

## Main results

* `buildTable_error_of_marks` — **an error, with other letters in other places.**
* `buildTable_ok_of_marks` — **a table, with other letters in other places.**
* `offset_lt_of_buildTable_eq_error` — the offsets in an error are places in the trimmed line.
-/

namespace TruthTables

/-- An error with another name for the variable that it tells of, and with other
offsets. -/
def LineError.map (ρ : Char → Char) (φ : Nat → Nat) : LineError → LineError
  | lexical e => lexical (e.map φ)
  | limit e => limit e
  | grammar e => grammar (e.map ρ φ)
  | unbound e => unbound ⟨ρ e.name⟩

/-! ### Other letters in other places -/

section Marks

variable {p : Renaming} {φ : Nat → Nat} {s t : Text}
  (h : t.trim.marks = s.trim.marks.map (Prod.map p φ))

include h

theorem scan_trim_of_marks {ts : List Token} (hscan : scan s.trim = .ok ts) :
    scan t.trim = .ok (ts.map (Token.map p φ)) := by
  rw [scan_of_marks h, hscan]
  rfl

/-- **An error, with other letters in other places.**  Each stage that can fail fails with
the same error, but for names and offsets. -/
theorem buildTable_error_of_marks {e : LineError} (he : buildTable s = .error e) :
    buildTable t = .error (e.map p φ) := by
  have houtcome := buildTable_outcome s
  rw [he] at houtcome
  cases houtcome with
  | @lexical e hscan =>
    have hscan' : scan t.trim = .error (e.map φ) := by
      rw [scan_of_marks h, hscan]
      rfl
    exact buildTable_eq_of_outcome (.lexical hscan')
  | @limit ts e hscan hcheck =>
    have hcheck' := (checkLimits_map p.injective φ ts).trans hcheck
    exact buildTable_eq_of_outcome (.limit (scan_trim_of_marks h hscan) hcheck')
  | @grammar ts e hscan hcheck hread =>
    have hcheck' := (checkLimits_map p.injective φ ts).trans hcheck
    have hread' : parseTokens (ts.map (Token.map p φ)) = .error (e.map p φ) := by
      rw [parseTokens_map, hread]
      rfl
    exact buildTable_eq_of_outcome (.grammar (scan_trim_of_marks h hscan) hcheck' hread')

/-- **A table, with other letters in other places.**  It is that of the formula with the
other letters. -/
theorem buildTable_ok_of_marks {table : Table} (htable : buildTable s = .ok table) :
    ∃ f : Formula, f.FollowsPrecedence ∧ f.IsLettered ∧ table = f.table s.trim ∧
      buildTable t = .ok ((f.rename p).table t.trim) := by
  have houtcome := buildTable_outcome s
  rw [htable] at houtcome
  cases houtcome with
  | @table ts q hscan hcheck hread =>
    have hparse := parse_eq_ok_iff_exists_scan.mpr ⟨ts, hscan, hread⟩
    have hcheck' := (checkLimits_map p.injective φ ts).trans hcheck
    have hread' : parseTokens (ts.map (Token.map p φ)) = .ok (q.rename p) := by
      rw [parseTokens_map, hread]
      rfl
    exact ⟨q.root, (parse_eq_ok_iff.mp hparse).2.1, isLettered_of_parse hparse, rfl,
      buildTable_eq_ok_of_stages (scan_trim_of_marks h hscan) hcheck' hread'⟩

end Marks

/-! ### The place of an error -/

/-- All offsets in an error: those of a token as well as the one that is told. -/
def LineError.offsets : LineError → List Nat
  | lexical e => [e.offset]
  | limit _ => []
  | grammar e => e.offsets
  | unbound _ => []

/-- The place of a token is in the text. -/
theorem offset_lt_of_scan {t : Text} {ts : List Token} (h : scan t = .ok ts) :
    ∀ x ∈ ts, x.offset < t.length := by
  obtain ⟨-, rfl⟩ := scan_eq_ok_iff.mp h
  intro x hx
  obtain ⟨i, c, hoffset, hc, -⟩ := getElem?_of_mem_tokensFrom t 0 x hx
  obtain ⟨hi, -⟩ := List.getElem?_eq_some_iff.mp hc
  omega

/-- **The offsets in an error** are places in the trimmed line. -/
theorem offset_lt_of_buildTable_eq_error {line : Text} {e : LineError}
    (h : buildTable line = .error e) {n : Nat} (hn : n ∈ e.offsets) : n < line.trim.length := by
  have houtcome := buildTable_outcome line
  rw [h] at houtcome
  cases houtcome with
  | @lexical e hscan =>
    obtain rfl := List.mem_singleton.mp hn
    obtain ⟨us, vs, hline, -, -, hoffset⟩ :=
      exists_of_foreignFrom_eq_some _ 0 e (scan_eq_error_iff.mp hscan)
    have hlength := congrArg List.length hline
    rw [List.length_append, List.length_cons] at hlength
    omega
  | limit hscan hcheck => cases hn
  | @grammar ts e hscan hcheck hread =>
    have hverdict := map_parseTokens ts
    rw [hread] at hverdict
    rcases Phase.exists_misfit_of_verdict_eq_error ts .operand e hverdict.symm with
      ⟨-, rfl⟩ | ⟨us, x, vs, q, rfl, -, hstep, -⟩
    · cases hn
    · -- the error is that of a token
      obtain rfl : n = x.offset := Phase.eq_of_mem_offsets hstep hn
      exact offset_lt_of_scan hscan x (by simp)

end TruthTables
