import TruthTables.Proofs.CommandLine.Log

/-!
# What verbosity has an effect on

How often more of the log is asked for decides which records of it are shown, and nothing but
that: the standard output, the reports and the exit code are the same for all numbers, be it that
some writes fail.  From three times on the whole log is shown; if more is asked for less often, the
records of the more detailed levels are left out, and the others stay as they are.  That the number
is kept in a byte, where it ends at 255, makes no difference.

## Main definitions

* `ShownOf n log shown` — what is shown of a log if more is asked for `n` times.

## Main results

* `shownOf_filter`, `filter_isShown_sublist` — what the levels leave of a log, and that it
  becomes more with the number.
* `transcript_verbosity` — **verbosity has an effect on the log only.**
-/

namespace TruthTables

open Options (verbosityOf)

/-! ### What is shown of the log -/

namespace Level

variable (l : Level)

theorem threshold_le_three : l.threshold ≤ 3 := by cases l <;> decide

/-- To count no further than 255 makes no difference. -/
theorem isShown_verbosityOf (n : Nat) : l.isShown (verbosityOf n) = decide (l.threshold ≤ n) := by
  have hthreshold := l.threshold_le_three
  rw [isShown, Options.toNat_verbosityOf]
  exact decide_eq_decide.mpr (by omega)

theorem isShown_zero : l.isShown (verbosityOf 0) = false := by cases l <;> rfl

theorem isShown_one : l.isShown (verbosityOf 1) = decide (l = .info) := by cases l <;> rfl

theorem isShown_two : l.isShown (verbosityOf 2) = decide (l = .info ∨ l = .debug) := by
  cases l <;> rfl

theorem isShown_of_three_le {n : Nat} (h : 3 ≤ n) : l.isShown (verbosityOf n) = true := by
  rw [isShown_verbosityOf]
  exact decide_eq_true (Nat.le_trans l.threshold_le_three h)

theorem isShown_of_le {m n : Nat} (h : m ≤ n) (hm : l.isShown (verbosityOf m) = true) :
    l.isShown (verbosityOf n) = true := by
  rw [isShown_verbosityOf] at hm ⊢
  exact decide_eq_true (Nat.le_trans (of_decide_eq_true hm) h)

end Level

/-- The records `shown` are what is shown of the records `log` if more is asked for `n` times. -/
structure ShownOf (n : Nat) (log shown : List Record) : Prop where
  /-- Nothing, if more is not asked for. -/
  none : n = 0 → shown = []
  /-- The most general records, if it is asked for once. -/
  info : n = 1 → shown = log.filter fun r => r.level = .info
  /-- All but the most detailed records, if it is asked for twice. -/
  debug : n = 2 → shown = log.filter fun r => r.level = .info ∨ r.level = .debug
  /-- All, if it is asked for three times or more often. -/
  trace : 3 ≤ n → shown = log

theorem shownOf_filter (n : Nat) (log : List Record) :
    ShownOf n log (log.filter fun r => r.level.isShown (verbosityOf n)) where
  none := by
    rintro rfl
    simp [Level.isShown_zero]
  info := by
    rintro rfl
    simp only [Level.isShown_one]
  debug := by
    rintro rfl
    simp only [Level.isShown_two]
  trace := fun h => List.filter_eq_self.mpr fun r _ => r.level.isShown_of_three_le h

/-- **The more is asked for, the more is shown.** -/
theorem filter_isShown_sublist {m n : Nat} (h : m ≤ n) (log : List Record) :
    (log.filter fun r => r.level.isShown (verbosityOf m)).Sublist
      (log.filter fun r => r.level.isShown (verbosityOf n)) :=
  List.monotone_filter_right log fun r hr => r.level.isShown_of_le h hr

/-! ### Runs -/

/-- **Verbosity has an effect on the log only.**  However often more of the log is asked for, the
run ends in the same way and puts out the same, whichever of its writes succeed.  What is shown of
the log is what the levels leave of all that is shown for three times, and so it becomes no less if
more is asked for; and if all writes succeed, then the log that is shown for three times is the
whole log. -/
theorem transcript_verbosity (o : Options) (isTerminal : Bool) (source : Text) (w : Nat → Bool) :
    let t (n : Nat) := (Invocation.run (o.asking n)).attempt w isTerminal (some source)
    (∀ m n, (t m).exitCode = (t n).exitCode ∧ (t m).output = (t n).output ∧
        (t m).reports = (t n).reports) ∧
      (∀ n, ShownOf n (t 3).log (t n).log) ∧
      (∀ m n, m ≤ n → (t m).log.Sublist (t n).log) ∧
      ((∀ k ≤ source.nonblank.length, w k = true) → (t 3).log = wholeLog o.file source) := by
  intro t
  -- the style and the name of the file are the same for all numbers, and so is the run
  let c := Course.attempt w 0 (events (o.style isTerminal) o.file source)
  have ht : ∀ n, t n = c.transcribe (verbosityOf n) := fun _ => rfl
  have hthree : (t 3).log = c.events.filterMap Event.log? :=
    (shownOf_filter 3 _).trace (Nat.le_refl 3)
  refine ⟨fun m n => ⟨rfl, rfl, rfl⟩, fun n => ?_, fun m n h => ?_, fun hw => ?_⟩
  · rw [hthree, ht]
    exact shownOf_filter n _
  · rw [ht, ht]
    exact filter_isShown_sublist h _
  · have hlog := congrArg Transcript.log (attempt_run_of_forall hw (o.asking 3) isTerminal)
    rw [← filterMap_log?_events (o.style isTerminal)]
    exact hlog.trans ((shownOf_filter 3 _).trace (Nat.le_refl 3))

/-- A line without a table, once with little of the log and once with all of it, which is asked for
more often than a byte can count.  The name of the file and the character that is blamed have to be
escaped. -/
theorem transcript_verbosity_of_rejected_line :
    let o : Options := ⟨.auto, true, 0, "it's \"A\"".toList⟩
    let source : Text := "\n'".toList
    let t (n : Nat) := (Invocation.run (o.asking n)).transcript false (some source)
    (t 256).reports = (t 1).reports ∧ (t 256).exitCode = (t 1).exitCode ∧
      (t 1).log.Sublist (t 256).log ∧
      (t 1).log = [⟨.info, "Loaded 2 bytes from \"it\\'s \\\"A\\\"\"".toList⟩,
        ⟨.info, "Processed 1 expressions: 0 tables, 1 errors".toList⟩] ∧
      (t 256).log = [⟨.info, "Loaded 2 bytes from \"it\\'s \\\"A\\\"\"".toList⟩,
        ⟨.debug, "line 2 rejected: InvalidCharacter \x7b ch: '\\'', location: ".toList ++
          "SourceLocation \x7b offset: 0 \x7d \x7d".toList⟩,
        ⟨.info, "Processed 1 expressions: 0 tables, 1 errors".toList⟩] := by
  intro o source t
  obtain ⟨hsame, hshown, hmore, hwhole⟩ := transcript_verbosity o false source fun _ => true
  have hall := hwhole fun _ _ => rfl
  obtain ⟨hexit, -, hreports⟩ := hsame 256 1
  refine ⟨hreports, hexit, hmore 1 256 (by decide), ?_, ?_⟩
  · have hone := (hshown 1).info rfl
    rw [hall] at hone
    exact hone.trans (by decide +kernel)
  · have hmany := (hshown 256).trace (by decide)
    rw [hall] at hmany
    exact hmany.trans (by decide +kernel)

end TruthTables
