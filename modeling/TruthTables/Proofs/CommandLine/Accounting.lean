import Mathlib.Data.List.Basic
import TruthTables.CommandLine.Run
import TruthTables.Proofs.Worksheet.LineEnds

/-!
# The accounts of a run

A run goes through the lines of its text one after the other, and keeps a summary while it
does.  What happens for a line is decided by this line alone: its table goes to the standard
output, or a report on it goes to the standard error, and never both.  So each stream holds
what the lines put there, one after the other, and at no time does the summary count anything
but what has been put out so far.

The last point is an invariant of the run (`Progress.Balanced`).  It holds before the first
line, one line more keeps it (`Progress.Balanced.advance`), and so any number of lines do
(`Progress.Balanced.foldl`).

How a run ends is decided by its writes, of which there is one for each line that is not blank,
and one at the end.  If they all succeed, everything happens and the run ends with the code 0.

## Main definitions

* `outputOf s line`, `reportOf s line` — what a line puts on the standard output, and what on
  the standard error, if anything.
* `Progress` — how far a run has come: its summary, and all that has happened.
* `Progress.Balanced` — the summary counts what has been put out.
* `AccountsFor o s source t` — the transcript `t` shows each line of `source` once.

## Main results

* `Progress.finish_foldl` — a run is what its lines come to one after the other.
* `filterMap_output?_events`, `filterMap_report?_events` — each stream, line by line.
* `Course.finished_attempt_iff` — a run ends well exactly if all its writes succeed.
* `transcript_accountsFor` — **a run accounts for every line.**
-/

namespace TruthTables

/-- What a line puts on the standard output, if it has a table: the table and an empty line. -/
def outputOf (s : Style) (line : Text) : Option Text :=
  match buildTable line with
  | .ok table => some (table.render s ++ ['\n'])
  | .error _ => none

/-- What a line puts on the standard error, if it has no table: a report on it. -/
def reportOf (s : Style) (line : Text) : Option Text :=
  match buildTable line with
  | .ok _ => none
  | .error e => some (report s line e)

/-! ### What happens for one line -/

section Streams

variable (s : Style) (e : Entry)

/-- Any view of what happens for a line is made of what is seen of its records, and of what is
seen of all that comes after them. -/
theorem Entry.filterMap_events {β : Type} (f : Event → Option β) :
    (e.events s).filterMap f = (e.build.log.filterMap fun r => f (.log r)) ++
      match e.result with
      | .ok table => List.filterMap f [.output (table.render s ++ ['\n'])]
      | .error error => List.filterMap f
        [.log (rejectedRecord e.line.number error), .report (report s e.line.content error)] := by
  rw [events, List.filterMap_append, List.filterMap_map]
  cases e.result <;> rfl

theorem Entry.filterMap_output?_events :
    (e.events s).filterMap Event.output? =
      match e.result with
      | .ok table => [table.render s ++ ['\n']]
      | .error _ => [] := by
  have hlog : (e.build.log.filterMap fun r => Event.output? (.log r)) = [] :=
    List.filterMap_eq_nil_iff.mpr fun _ _ => rfl
  rw [e.filterMap_events, hlog, List.nil_append]
  cases e.result <;> rfl

theorem Entry.filterMap_report?_events :
    (e.events s).filterMap Event.report? =
      match e.result with
      | .ok _ => []
      | .error error => [report s e.line.content error] := by
  have hlog : (e.build.log.filterMap fun r => Event.report? (.log r)) = [] :=
    List.filterMap_eq_nil_iff.mpr fun _ _ => rfl
  rw [e.filterMap_events, hlog, List.nil_append]
  cases e.result <;> rfl

theorem Entry.filterMap_log?_events :
    (e.events s).filterMap Event.log? = e.build.log ++
      match e.result with
      | .ok _ => []
      | .error error => [rejectedRecord e.line.number error] := by
  have hlog : (e.build.log.filterMap fun r => Event.log? (.log r)) = e.build.log :=
    List.filterMap_some
  rw [e.filterMap_events, hlog]
  cases e.result <;> rfl

/-- **A line puts one text on one of the two streams**, and nothing on the other. -/
theorem Entry.length_streams :
    ((e.events s).filterMap Event.output?).length +
      ((e.events s).filterMap Event.report?).length = 1 := by
  rw [e.filterMap_output?_events, e.filterMap_report?_events]
  cases e.result <;> rfl

end Streams

theorem output?_events_ofLine (s : Style) (l : NumberedLine) :
    ((Entry.ofLine l).events s).filterMap Event.output? = (outputOf s l.content).toList := by
  have hresult : (Entry.ofLine l).result = buildTable l.content := rfl
  rw [Entry.filterMap_output?_events, hresult, outputOf]
  cases buildTable l.content <;> rfl

theorem report?_events_ofLine (s : Style) (l : NumberedLine) :
    ((Entry.ofLine l).events s).filterMap Event.report? = (reportOf s l.content).toList := by
  have hresult : (Entry.ofLine l).result = buildTable l.content := rfl
  rw [Entry.filterMap_report?_events, hresult, reportOf]
  cases buildTable l.content <;> rfl

/-! ### What happens in a run -/

/-- Any view of a run is made of the views of what happens for its lines. -/
theorem filterMap_events {β : Type} (f : Event → Option β) (s : Style) (file source : Text) :
    (events s file source).filterMap f =
      (f (.log (loadedRecord source.byteCount file))).toList ++
        (source.nonblank.flatMap fun x =>
          ((Entry.ofLine ⟨x.2, x.1⟩).events s).filterMap f) ++
        [.flush, .log (processedRecord (Summary.ofEntries (worksheet source)))].filterMap f := by
  have hsplit : ∀ (a : Event) (l : List Event),
      (a :: l).filterMap f = (f a).toList ++ l.filterMap f := by
    intro a l
    rw [List.filterMap_cons]
    cases f a <;> rfl
  have hlines : ((worksheet source).flatMap (Entry.events s)).filterMap f =
      source.nonblank.flatMap fun x => ((Entry.ofLine ⟨x.2, x.1⟩).events s).filterMap f := by
    rw [List.filterMap_flatMap, worksheet_eq_map_nonblank, List.flatMap_map]
  rw [events, hsplit, List.filterMap_append, hlines, List.append_assoc]

/-- **The standard output**, line by line. -/
theorem filterMap_output?_events (s : Style) (file source : Text) :
    (events s file source).filterMap Event.output? =
      source.nonblank.filterMap fun x => outputOf s x.1 := by
  have hend : ∀ r, [Event.flush, .log r].filterMap Event.output? = [] := fun _ => rfl
  rw [filterMap_events, hend, List.filterMap_eq_flatMap_toList]
  simp only [output?_events_ofLine, Event.output?, Option.toList_none, List.nil_append,
    List.append_nil]

/-- **The standard error** without the log, line by line. -/
theorem filterMap_report?_events (s : Style) (file source : Text) :
    (events s file source).filterMap Event.report? =
      source.nonblank.filterMap fun x => reportOf s x.1 := by
  have hend : ∀ r, [Event.flush, .log r].filterMap Event.report? = [] := fun _ => rfl
  rw [filterMap_events, hend, List.filterMap_eq_flatMap_toList]
  simp only [report?_events_ofLine, Event.report?, Option.toList_none, List.nil_append,
    List.append_nil]

/-! ### Writes that fail -/

/-- **A line makes one write.** -/
theorem Entry.countP_isWrite_events (s : Style) (e : Entry) :
    (e.events s).countP Event.isWrite = 1 := by
  have hlog : (e.build.log.map Event.log).countP Event.isWrite = 0 := by
    rw [List.countP_map]
    exact List.countP_eq_zero.mpr fun _ _ => Bool.false_ne_true
  rw [events, List.countP_append, hlog, Nat.zero_add]
  cases e.result <;> rfl

/-- **A run makes one write for each line that is not blank**, and one at the end. -/
theorem countP_isWrite_events (s : Style) (file source : Text) :
    (events s file source).countP Event.isWrite = source.nonblank.length + 1 := by
  have hone : List.countP Event.isWrite ∘ Entry.events s = fun _ => 1 :=
    funext fun e => e.countP_isWrite_events s
  have hlines : ((worksheet source).flatMap (Entry.events s)).countP Event.isWrite =
      source.nonblank.length := by
    rw [List.countP_flatMap, hone, List.map_const', List.sum_replicate_nat, Nat.mul_one,
      length_worksheet]
  rw [events, List.countP_cons_of_neg Bool.false_ne_true, List.countP_append, hlines]
  rfl

namespace Course

variable (w : Nat → Bool)

theorem attempt_cons_of_isWrite {e : Event} (he : e.isWrite = true) (n : Nat) (es : List Event) :
    attempt w n (e :: es) =
      if w n then (attempt w (n + 1) es).after e else ⟨[], false⟩ := by
  rw [attempt, if_pos he]

theorem attempt_cons_of_not_isWrite {e : Event} (he : ¬ e.isWrite = true) (n : Nat)
    (es : List Event) : attempt w n (e :: es) = (attempt w n es).after e := by
  rw [attempt, if_neg he]

/-- **A run ends well exactly if all its writes succeed.** -/
theorem finished_attempt_iff (n : Nat) (es : List Event) :
    (attempt w n es).finished = true ↔ ∀ k < es.countP Event.isWrite, w (n + k) = true := by
  induction es generalizing n with
  | nil => simp [attempt]
  | cons e es ih =>
    by_cases he : e.isWrite = true
    · rw [attempt_cons_of_isWrite w he, List.countP_cons_of_pos he, Nat.forall_lt_succ_left]
      -- the write of `e` comes before the others
      have hlater : (∀ k < es.countP Event.isWrite, w (n + (k + 1)) = true) ↔
          ∀ k < es.countP Event.isWrite, w (n + 1 + k) = true := by
        simp only [Nat.add_assoc, Nat.add_comm 1]
      rw [hlater, ← ih (n + 1)]
      by_cases hw : w n = true
      · rw [if_pos hw]
        exact ⟨fun h => ⟨hw, h⟩, fun h => h.2⟩
      · rw [if_neg hw]
        exact ⟨fun h => absurd h Bool.false_ne_true, fun h => absurd h.1 hw⟩
    · rw [attempt_cons_of_not_isWrite w he, List.countP_cons_of_neg he]
      exact ih n

/-- **A run that ends well** gets to the end. -/
theorem attempt_of_finished {n : Nat} {es : List Event} (h : (attempt w n es).finished = true) :
    attempt w n es = ⟨es, true⟩ := by
  induction es generalizing n with
  | nil => rfl
  | cons e es ih =>
    by_cases he : e.isWrite = true
    · rw [attempt_cons_of_isWrite w he] at h ⊢
      by_cases hw : w n = true
      · rw [if_pos hw] at h ⊢
        rw [ih h, after]
      · rw [if_neg hw] at h
        cases h
    · rw [attempt_cons_of_not_isWrite w he] at h ⊢
      rw [ih h, after]

end Course

/-! ### The run, one line after the other -/

/-- How far a run has come. -/
structure Progress where
  /-- The summary of the lines so far. -/
  summary : Summary
  /-- What has happened so far. -/
  events : List Event

namespace Progress

/-- Before the first line, the text has been read. -/
def start (file source : Text) : Progress :=
  ⟨.empty, [.log (loadedRecord source.byteCount file)]⟩

/-- One line more. -/
def advance (s : Style) (p : Progress) (e : Entry) : Progress :=
  ⟨p.summary.record e, p.events ++ e.events s⟩

/-- After the last line, the summary is told. -/
def finish (p : Progress) : List Event := p.events ++ [.flush, .log (processedRecord p.summary)]

/-- **The summary counts what has been put out**: tables on the standard output and reports
on the standard error, and nothing else. -/
structure Balanced (p : Progress) : Prop where
  /-- A line is counted as one with a table or as one without. -/
  lines : p.summary.lines = p.summary.tables + p.summary.failures
  /-- Tables are counted as they are put out. -/
  tables : p.summary.tables = (p.events.filterMap Event.output?).length
  /-- So are reports. -/
  failures : p.summary.failures = (p.events.filterMap Event.report?).length

theorem balanced_start (file source : Text) : (start file source).Balanced := ⟨rfl, rfl, rfl⟩

/-- **One line more** is counted, and puts out what it is counted as. -/
theorem Balanced.advance {p : Progress} (h : p.Balanced) (s : Style) (e : Entry) :
    (p.advance s e).Balanced := by
  obtain ⟨hlines, htables, hfailures⟩ := h
  have houtput := e.filterMap_output?_events s
  have hreport := e.filterMap_report?_events s
  cases hresult : e.result with
  | ok table =>
    have hsummary : p.summary.record e =
        ⟨p.summary.lines + 1, p.summary.tables + 1, p.summary.failures⟩ := by
      rw [Summary.record, hresult]
    rw [hresult] at houtput hreport
    constructor <;>
      simp only [Progress.advance, hsummary, List.filterMap_append, houtput, hreport,
        List.length_append, List.length_singleton, List.length_nil] <;> omega
  | error error =>
    have hsummary : p.summary.record e =
        ⟨p.summary.lines + 1, p.summary.tables, p.summary.failures + 1⟩ := by
      rw [Summary.record, hresult]
    rw [hresult] at houtput hreport
    constructor <;>
      simp only [Progress.advance, hsummary, List.filterMap_append, houtput, hreport,
        List.length_append, List.length_singleton, List.length_nil] <;> omega

/-- **So are any number of lines.** -/
theorem Balanced.foldl {p : Progress} (h : p.Balanced) (s : Style) (es : List Entry) :
    (es.foldl (Progress.advance s) p).Balanced := by
  induction es generalizing p with
  | nil => exact h
  | cons e es ih => exact ih (h.advance s e)

theorem foldl_advance (s : Style) (es : List Entry) (p : Progress) :
    es.foldl (advance s) p =
      ⟨es.foldl Summary.record p.summary, p.events ++ es.flatMap (Entry.events s)⟩ := by
  induction es generalizing p with
  | nil => simp
  | cons e es ih => simp [ih, advance]

/-- **A run is what its lines come to one after the other.** -/
theorem finish_foldl (s : Style) (file source : Text) :
    ((worksheet source).foldl (advance s) (start file source)).finish =
      TruthTables.events s file source := by
  rw [foldl_advance, finish, TruthTables.events]
  rfl

/-- What has happened stays, whatever comes after. -/
theorem events_prefix_foldl (s : Style) (es : List Entry) (p : Progress) :
    p.events <+: (es.foldl (advance s) p).events := by
  rw [foldl_advance]
  exact List.prefix_append ..

end Progress

/-- Each entry counts as one line. -/
theorem Summary.lines_ofEntries (es : List Entry) : (Summary.ofEntries es).lines = es.length := by
  have hall : ∀ (es : List Entry) (s : Summary),
      (es.foldl record s).lines = s.lines + es.length := by
    intro es
    induction es with
    | nil => intro s; rfl
    | cons e es ih =>
      intro s
      have hone : (s.record e).lines = s.lines + 1 := by
        rw [record]
        cases e.result <;> rfl
      rw [List.foldl_cons, ih, hone, List.length_cons]
      omega
  rw [ofEntries, hall]
  exact Nat.zero_add _

/-! ### Transcripts -/

/-- The transcript `t` of a run on `source` with the options `o` and the style `s` shows each
line that is not blank once, where it belongs. -/
structure AccountsFor (o : Options) (s : Style) (source : Text) (t : Transcript) : Prop where
  /-- The standard output has the tables, in the order of their lines. -/
  output : t.output = (source.nonblank.filterMap fun x => outputOf s x.1).flatten
  /-- The standard error has the reports, in the order of their lines. -/
  reports : t.reports = (source.nonblank.filterMap fun x => reportOf s x.1).flatten
  /-- Each line puts one text on one of the two streams, and nothing on the other. -/
  once : ∀ e ∈ worksheet source, ((e.events s).filterMap Event.output?).length +
    ((e.events s).filterMap Event.report?).length = 1
  /-- After any number of lines, what has happened is a part of what happens in all, and the
  summary counts the lines and what has been put out for them. -/
  balanced : ∀ done left, worksheet source = done ++ left →
    let p := done.foldl (Progress.advance s) (.start o.file source)
    p.events <+: events s o.file source ∧ p.summary.lines = done.length ∧ p.Balanced
  /-- The last record, if the log is shown at all, tells how many lines there are, and how
  much of them is on each stream. -/
  processed : 1 ≤ o.verbosity.toNat → t.log.getLast? = some ⟨.info,
    "Processed ".toList ++ Text.ofNat source.nonblank.length ++ " expressions: ".toList ++
      Text.ofNat (source.nonblank.filterMap fun x => outputOf s x.1).length ++
      " tables, ".toList ++
      Text.ofNat (source.nonblank.filterMap fun x => reportOf s x.1).length ++
      " errors".toList⟩

/-- The summary of a run, told by what is put out. -/
theorem ofEntries_worksheet (s : Style) (source : Text) :
    Summary.ofEntries (worksheet source) =
      { lines := source.nonblank.length
        tables := (source.nonblank.filterMap fun x => outputOf s x.1).length
        failures := (source.nonblank.filterMap fun x => reportOf s x.1).length } := by
  let p := (worksheet source).foldl (Progress.advance s) (.start [] source)
  have hbalanced : p.Balanced := (Progress.balanced_start [] source).foldl s (worksheet source)
  have hsummary : p.summary = Summary.ofEntries (worksheet source) := by
    exact congrArg Progress.summary (Progress.foldl_advance ..)
  have hfinish : p.events ++ [.flush, .log (processedRecord p.summary)] = events s [] source :=
    Progress.finish_foldl s [] source
  have houtput : p.events.filterMap Event.output? =
      source.nonblank.filterMap fun x => outputOf s x.1 := by
    rw [← filterMap_output?_events s [] source, ← hfinish, List.filterMap_append]
    exact (List.append_nil _).symm
  have hreports : p.events.filterMap Event.report? =
      source.nonblank.filterMap fun x => reportOf s x.1 := by
    rw [← filterMap_report?_events s [] source, ← hfinish, List.filterMap_append]
    exact (List.append_nil _).symm
  have hlines : (Summary.ofEntries (worksheet source)).lines = source.nonblank.length := by
    rw [Summary.lines_ofEntries, length_worksheet]
  have htables := hbalanced.tables
  have hfailures := hbalanced.failures
  rw [hsummary, houtput] at htables
  rw [hsummary, hreports] at hfailures
  rw [← hlines, ← htables, ← hfailures]

/-- What is shown of a run of which every write succeeds. -/
theorem attempt_run_of_forall {w : Nat → Bool} {source : Text}
    (hw : ∀ k ≤ source.nonblank.length, w k = true) (o : Options) (isTerminal : Bool) :
    (Invocation.run o).attempt w isTerminal (some source) =
      (Course.mk (events (o.style isTerminal) o.file source) true).transcribe o.verbosity := by
  have hfinished :
      (Course.attempt w 0 (events (o.style isTerminal) o.file source)).finished = true := by
    rw [Course.finished_attempt_iff, countP_isWrite_events]
    intro k hk
    rw [Nat.zero_add]
    exact hw k (Nat.le_of_lt_succ hk)
  rw [Invocation.attempt, Course.attempt_of_finished w hfinished]

/-- **How a run ends is decided by its writes**, and not by what comes of its lines. -/
theorem exitCode_attempt_run_iff (w : Nat → Bool) (o : Options) (isTerminal : Bool)
    (source : Text) :
    ((Invocation.run o).attempt w isTerminal (some source)).exitCode = 0 ↔
      ∀ k ≤ source.nonblank.length, w k = true := by
  have hfinished := Course.finished_attempt_iff w 0 (events (o.style isTerminal) o.file source)
  rw [countP_isWrite_events] at hfinished
  simp only [Nat.zero_add, Nat.lt_succ_iff] at hfinished
  rw [← hfinished, Invocation.attempt, Course.transcribe]
  split <;> simp [*]

/-- **A run accounts for every line**, whatever it is asked for.  It ends with the code 0 exactly if
its writes succeed, one for each line that is not blank and one at the end, however many of the
lines have no table; and if so, each line is where it belongs. -/
theorem transcript_accountsFor {o : Options} (hcolor : o.color ≠ .auto) (isTerminal : Bool)
    (source : Text) (w : Nat → Bool) :
    let t := (Invocation.run o).attempt w isTerminal (some source)
    (t.exitCode = 0 ↔ ∀ k ≤ source.nonblank.length, w k = true) ∧
      ((∀ k ≤ source.nonblank.length, w k = true) →
        AccountsFor o ⟨o.color = .always, o.title⟩ source t) := by
  refine ⟨exitCode_attempt_run_iff w o isTerminal source, fun hw => ?_⟩
  have hstyle : o.style isTerminal = ⟨o.color = .always, o.title⟩ := by
    rw [Options.style]
    cases h : o.color with
    | auto => exact absurd h hcolor
    | always => rfl
    | never => rfl
  rw [attempt_run_of_forall hw, hstyle]
  exact {
    output := by rw [Course.transcribe, filterMap_output?_events]
    reports := by rw [Course.transcribe, filterMap_report?_events]
    once := fun e _ => e.length_streams _
    balanced := by
      intro done left h
      refine ⟨?_, ?_, (Progress.balanced_start _ _).foldl _ _⟩
      · rw [← Progress.finish_foldl, h, List.foldl_append]
        exact (Progress.events_prefix_foldl _ left _).trans (List.prefix_append ..)
      · rw [Progress.foldl_advance]
        exact Summary.lines_ofEntries done
    processed := by
      intro hv
      let r := processedRecord (Summary.ofEntries (worksheet source))
      have hshown : [r].filter (fun r => r.level.isShown o.verbosity) = [r] :=
        List.filter_cons_of_pos (decide_eq_true hv)
      have hwords := congrArg processedRecord
        (ofEntries_worksheet ⟨o.color = .always, o.title⟩ source)
      obtain ⟨rs, hlog⟩ : ∃ rs, (events ⟨o.color = .always, o.title⟩ o.file source).filterMap
          Event.log? = rs ++ [r] := ⟨_, filterMap_events Event.log? _ o.file source⟩
      simp only [Course.transcribe, hlog, List.filter_append, hshown, List.getLast?_concat]
      exact congrArg some hwords }

/-- Two tables and a report, from four lines of which one is blank.  The run needs four writes, and
if the third fails, which is the one for the last table, so does the run. -/
theorem transcript_accountsFor_of_four_lines :
    let o : Options := ⟨.never, false, 1, ['-']⟩
    let source : Text := "A ∧ B\n \n A? \n~A".toList
    let w : Nat → Bool := fun k => k < 4
    let t := (Invocation.run o).attempt w false (some source)
    o.color ≠ .auto ∧ (∀ k ≤ source.nonblank.length, w k = true) ∧
      t.exitCode = 0 ∧ AccountsFor o ⟨false, false⟩ source t ∧
      t.reports = "'A?' Tokenization error: Invalid character '?' at position 2\n".toList ∧
      t.log.getLast? = some ⟨.info, "Processed 3 expressions: 2 tables, 1 errors".toList⟩ ∧
      ((Invocation.run o).attempt (fun k => k ≠ 2) false (some source)).exitCode ≠ 0 := by
  intro o source w t
  have hcolor : o.color ≠ .auto := by decide
  have hlength : source.nonblank.length = 3 := by decide
  have hw : ∀ k ≤ source.nonblank.length, w k = true := by
    intro k hk
    exact decide_eq_true (by omega)
  obtain ⟨hexit, haccounts⟩ := transcript_accountsFor hcolor false source w
  obtain ⟨hexit', -⟩ := transcript_accountsFor hcolor false source fun k => k ≠ 2
  refine ⟨hcolor, hw, hexit.mpr hw, haccounts hw, ?_, ?_, fun h => ?_⟩
  · exact (haccounts hw).reports.trans (by decide +kernel)
  · exact ((haccounts hw).processed (by decide)).trans (by decide +kernel)
  · exact absurd (hexit'.mp h 2 (by omega)) (by decide)

end TruthTables
