import TruthTables.Proofs.CommandLine.Accounting
import TruthTables.Proofs.Formula.Verdict
import TruthTables.Proofs.Table.Decoration
import TruthTables.Proofs.Text.Blocks

/-!
# How the streams of a run are framed

What a run puts on its streams can be taken apart again.  On the standard output each table is
a block: its lines, none of which is empty, and then an empty line.  On the standard error each
report is one line.  So the tables are found by cutting the one stream after each empty line,
and the reports by cutting the other after each line feed.

Much of what is printed is quoted from a line of the text: the title of a table, the line that
a report is on, the character that an error tells of.  A line may say anything, be it a carriage
return, a line separator or a control sequence.  But there is no line feed in it, as line feeds
separate the lines, and an error tells only of characters that are in its line.  All else that
is printed comes from written forms of formulas, from messages and from colors, and none of
these has a line feed either.

## Main definitions

* `Framed s source t` — the streams of the transcript `t` can be taken apart.

## Main results

* `mem_trim_of_payload?` — the character that an error quotes is in the line.
* `buildTable_isBlock` — **a printed table is a block**, with as many lines as it has to have.
* `isEndedLine_report` — **a report is one line.**
* `transcript_framed` — **both streams of a run can be taken apart.**
-/

namespace TruthTables

/-! ### What errors quote -/

/-- **The character that an error quotes is in the line**, and is no part of its margins. -/
theorem mem_trim_of_payload? {line : Text} {e : LineError} (h : buildTable line = .error e)
    {c : Char} (hc : e.payload? = some c) : c ∈ line.trim := by
  have houtcome := buildTable_outcome line
  rw [h] at houtcome
  cases houtcome with
  | @lexical e hscan =>
    obtain rfl := Option.some.inj hc
    obtain ⟨us, vs, hline, -⟩ := exists_of_foreignFrom_eq_some _ 0 e (scan_eq_error_iff.mp hscan)
    rw [hline]
    simp
  | limit hscan hcheck => cases hc
  | @grammar ts e hscan hcheck hread =>
    cases e with
    | variableExpected offset => cases hc
    | unexpected x n =>
      obtain rfl := Option.some.inj hc
      obtain ⟨-, rfl⟩ := scan_eq_ok_iff.mp hscan
      -- the glyph of a token is the character that it was read from
      obtain ⟨i, d, -, hd, hsymbol⟩ :=
        getElem?_of_mem_tokensFrom _ 0 x (mem_of_parseTokens_eq_unexpected hread).1
      rw [glyph_of_symbolOf? hsymbol]
      exact List.mem_of_getElem? hd

/-! ### Lines -/

theorem Style.notMem_newline_paint {t : Text} (h : '\n' ∉ t) (s : Style) (c : Rgb) :
    '\n' ∉ s.paint c t := by
  rw [Style.paint]
  split
  · exact Text.notMem_newline_paint h c
  · exact h

/-- **A report is one line.** -/
theorem isEndedLine_report {line : Text} (hline : '\n' ∉ line) {e : LineError}
    (h : buildTable line = .error e) (s : Style) :
    Text.IsEndedLine (report s line e) := by
  have hcontrol : '\n' < ' ' := by decide
  have hpayload : e.payload? ≠ some '\n' := fun hc =>
    hline (Text.mem_of_mem_trim (mem_trim_of_payload? h hc))
  have hsubject := notMem_quoted hcontrol hline
  have hstatement := LineError.notMem_statement hcontrol hpayload
  have hpainted : '\n' ∉ s.paint theme.subject ('\'' :: line ++ ['\'']) ++
      ' ' :: s.paint theme.error (e.stage.name ++ " error: ".toList ++ e.message) := by
    rw [List.mem_append, List.mem_cons, not_or, not_or]
    exact ⟨Style.notMem_newline_paint hsubject s _, by decide,
      Style.notMem_newline_paint hstatement s _⟩
  exact ⟨_, hpainted, rfl⟩

/-! ### Tables -/

/-- Lines that decorate others have no line feeds if these have none, and are not empty if
these are not. -/
theorem forall_mem_of_decorates {ds ls : List Text} (h : List.Forall₂ Text.Decorates ds ls)
    (hls : ∀ l ∈ ls, l ≠ [] ∧ '\n' ∉ l) : ∀ d ∈ ds, d ≠ [] ∧ '\n' ∉ d := by
  induction h with
  | nil => exact hls
  | cons hd _ ih =>
    obtain ⟨⟨hne, hnewline⟩, hls⟩ := List.forall_mem_cons.mp hls
    exact List.forall_mem_cons.mpr ⟨⟨hd.ne_nil hne, hd.notMem_newline hnewline⟩, ih hls⟩

namespace Table.Legible

variable {t : Table} (h : t.Legible) (hrows : t.rows.length = Nat.pow 2 t.vars.size)
  (hescape : ∀ header ∈ t.headers, Text.escape ∉ header)

include h hrows hescape

/-- The lines of a legible table below the title. -/
theorem lines_below_title (color : Bool) :
    (∀ l ∈ (t.lines ⟨color, false⟩).map List.flatten, l ≠ [] ∧ '\n' ∉ l) ∧
      ((t.lines ⟨color, false⟩).map List.flatten).length = 2 + Nat.pow 2 t.vars.size := by
  have hplain := h.laidOut_plainLines hrows
  rw [← h.flatten_lines] at hplain
  have hline : ∀ l ∈ (t.lines ⟨false, false⟩).map List.flatten, l ≠ [] ∧ '\n' ∉ l := by
    intro l hl
    refine ⟨fun hnil => ?_, hplain.notMem_newline l hl⟩
    have hlength := hplain.length_line l hl
    rw [hnil, List.length_nil] at hlength
    omega
  cases color with
  | false => exact ⟨hline, hplain.length_lines⟩
  | true =>
    have hcolored := t.decorates_lines hescape
    exact ⟨forall_mem_of_decorates hcolored hline, hcolored.length_eq.trans hplain.length_lines⟩

/-- A legible table is printed as a block. -/
theorem isBlock_render (hne : t.expression ≠ []) (hexpression : '\n' ∉ t.expression) (s : Style) :
    ∃ ls, Text.IsBlock ls (t.render s ++ ['\n']) ∧
      ls.length = (if s.title then 1 else 0) + 2 + Nat.pow 2 t.vars.size := by
  obtain ⟨color, title⟩ := s
  obtain ⟨hlines, hlength⟩ := h.lines_below_title hrows hescape color
  have hblock : Text.IsBlock ((t.lines ⟨color, false⟩).map List.flatten)
      (t.render ⟨color, false⟩ ++ ['\n']) := ⟨by rw [render_eq_flatMap], hlines⟩
  cases title with
  | false => exact ⟨_, hblock, by rw [hlength, if_neg Bool.false_ne_true, Nat.zero_add]⟩
  | true =>
    let line := Style.paint ⟨color, true⟩ theme.title t.expression
    have hline : line ≠ [] := by cases color <;> simp [line, Style.paint, paint, hne]
    have htitled : Text.IsBlock (line :: (t.lines ⟨color, false⟩).map List.flatten)
        (t.render ⟨color, true⟩ ++ ['\n']) := by
      rw [render_title, List.append_assoc]
      exact hblock.cons hline (Style.notMem_newline_paint hexpression _ _)
    exact ⟨_, htitled, by rw [List.length_cons, hlength, if_pos rfl]; omega⟩

end Table.Legible

/-- No header has an escape character in it, as none is foreign to formulas. -/
theorem Formula.escape_notMem_headers {f : Formula} (h : f.IsLettered) (expression : Text) :
    ∀ header ∈ (f.table expression).headers, Text.escape ∉ header := by
  intro header hheader hmem
  obtain ⟨g, hg, rfl⟩ := List.mem_map.mp hheader
  have hlettered := isLettered_of_mem_postorder h (mem_columns.mp hg)
  exact absurd (isForeign_eq_false_of_mem_text hlettered Text.escape hmem) (by decide)

/-- **A printed table is a block**: the title if it is printed, two lines, and one line for each
choice of truth values, none of them empty, and an empty line after them. -/
theorem buildTable_isBlock {line : Text} (hline : '\n' ∉ line) {t : Table}
    (h : buildTable line = .ok t) (s : Style) :
    ∃ ls, Text.IsBlock ls (t.render s ++ ['\n']) ∧
      ls.length = (if s.title then 1 else 0) + 2 + Nat.pow 2 t.vars.size := by
  obtain ⟨p, hp, -, -, rfl⟩ := buildTable_eq_ok_iff.mp h
  have hlettered := isLettered_of_parse hp
  have hne : line.trim ≠ [] := by
    intro hnil
    rw [hnil] at hp
    cases hp
  exact (Formula.legible_table hlettered line.trim).isBlock_render
    (p.root.length_rows_table line.trim) (Formula.escape_notMem_headers hlettered line.trim) hne
    (fun hmem => hline (Text.mem_of_mem_trim hmem)) s

/-! ### Streams -/

section Line

variable {line : Text} (hline : '\n' ∉ line) (s : Style)

include hline

theorem exists_isBlock_of_outputOf {t : Text} (h : outputOf s line = some t) :
    ∃ ls, Text.IsBlock ls t := by
  rw [outputOf] at h
  split at h
  · next table htable =>
    obtain rfl := Option.some.inj h
    obtain ⟨ls, hls, -⟩ := buildTable_isBlock hline htable s
    exact ⟨ls, hls⟩
  · cases h

theorem isEndedLine_of_reportOf {t : Text} (h : reportOf s line = some t) : t.IsEndedLine := by
  rw [reportOf] at h
  split at h
  · cases h
  · next e he =>
    obtain rfl := Option.some.inj h
    exact isEndedLine_report hline he s

end Line

/-- The streams of the transcript `t` of a run on `source` in the style `s` can be taken
apart. -/
structure Framed (s : Style) (source : Text) (t : Transcript) : Prop where
  /-- Each table makes a block with an empty line after it.  It has a line for the title if this
  is printed, two more, and one for each choice of truth values. -/
  table : ∀ x ∈ source.nonblank, ∀ table, buildTable x.1 = .ok table →
    ∃ ls, Text.IsBlock ls (table.render s ++ ['\n']) ∧
      ls.length = (if s.title then 1 else 0) + 2 + Nat.pow 2 table.vars.size
  /-- On the standard output there are these blocks, one after the other. -/
  output : t.output = (source.nonblank.filterMap fun x => outputOf s x.1).flatten
  /-- Cut after each empty line, the standard output falls into them. -/
  blocks : t.output.blocks = source.nonblank.filterMap fun x => outputOf s x.1
  /-- Each report is one line. -/
  report : ∀ x ∈ source.nonblank, ∀ e, buildTable x.1 = .error e →
    Text.IsEndedLine (report s x.1 e)
  /-- On the standard error there are these lines, one after the other. -/
  reports : t.reports = (source.nonblank.filterMap fun x => reportOf s x.1).flatten
  /-- Cut after each line feed, the standard error falls into them. -/
  lines : t.reports.endedLines = source.nonblank.filterMap fun x => reportOf s x.1
  /-- The line feeds on the standard error count the lines that have no table. -/
  count : t.reports.count '\n' = (Summary.ofEntries (worksheet source)).failures

/-- **Both streams of a run can be taken apart**, whatever its text and whatever is asked for. -/
theorem transcript_framed (o : Options) (isTerminal : Bool) (source : Text) :
    Framed (o.style isTerminal) source
      ((Invocation.run o).transcript isTerminal (some source)) := by
  let s := o.style isTerminal
  let t := (Invocation.run o).transcript isTerminal (some source)
  have ht : t = (Course.mk (events s o.file source) true).transcribe o.verbosity :=
    attempt_run_of_forall (fun _ _ => rfl) o isTerminal
  have houtput : t.output = (source.nonblank.filterMap fun x => outputOf s x.1).flatten := by
    rw [ht, Course.transcribe, filterMap_output?_events]
  have hreports : t.reports = (source.nonblank.filterMap fun x => reportOf s x.1).flatten := by
    rw [ht, Course.transcribe, filterMap_report?_events]
  have hblock : ∀ u ∈ source.nonblank.filterMap fun x => outputOf s x.1,
      ∃ ls, Text.IsBlock ls u := by
    intro u hu
    obtain ⟨x, hx, hxu⟩ := List.mem_filterMap.mp hu
    exact exists_isBlock_of_outputOf (Text.notMem_of_mem_nonblank hx) s hxu
  have hline : ∀ u ∈ source.nonblank.filterMap fun x => reportOf s x.1, u.IsEndedLine := by
    intro u hu
    obtain ⟨x, hx, hxu⟩ := List.mem_filterMap.mp hu
    exact isEndedLine_of_reportOf (Text.notMem_of_mem_nonblank hx) s hxu
  exact {
    table := fun x hx table h => buildTable_isBlock (Text.notMem_of_mem_nonblank hx) h s
    output := houtput
    blocks := by rw [houtput, Text.blocks_flatten hblock]
    report := fun x hx e h => isEndedLine_report (Text.notMem_of_mem_nonblank hx) h s
    reports := hreports
    lines := by rw [hreports, Text.endedLines_flatten hline]
    count := by rw [hreports, Text.count_newline_flatten hline, ofEntries_worksheet s] }

/-- A table whose title has a carriage return and a line separator in it, and a report that quotes
an escape character. -/
example :
    let source : Text := "A\r∧\u2028A\n\n\x1b[m\n~B\u0085\n".toList
    let t := (Invocation.run ⟨.never, true, 0, ['-']⟩).transcript false (some source)
    t.output.blocks =
        ["A\r∧\u2028A\n| A | A ∧ A |\n|---|-------|\n| T | T     |\n| F | F     |\n\n",
          "~B\n| B | ~B |\n|---|----|\n| T | F  |\n| F | T  |\n\n"].map String.toList ∧
      t.reports.endedLines =
        ["'\x1b[m' Tokenization error: Invalid character '\x1b' at position 1\n".toList] := by
  decide +kernel

end TruthTables
