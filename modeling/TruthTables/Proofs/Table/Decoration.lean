import TruthTables.Proofs.Table.Layout
import TruthTables.Proofs.Text.ControlSequences
import TruthTables.Report

/-!
# Color is decoration

What is printed in color is what is printed without it, with control sequences put in.  Cells
are filled up before they are colored, so the control sequences shift nothing.  Nor is there an
escape character in what is colored, as the alphabet of formulas does not have one: every control
sequence is one that color has put in.

A report quotes a line that may say anything, and sometimes a single character as well.  If there
is no escape character in what it quotes, then the same is true of the report.

## Main definitions

* `LineError.payload? e` — the character that the message of `e` quotes.

## Main results

* `Table.decorates_render` — a table in color decorates the table without it.
* `LineError.notMem_message` — no message has a control character but in place of what it quotes.
* `decorates_report` — so does a report.
* `strip_colored` — **taking control sequences out takes the color away, and nothing else.**
-/

namespace TruthTables

open Text (escape strip Decorates)

/-! ### Tables -/

/-- A text that is printed in color decorates the text that is printed without it. -/
theorem Style.decorates_paint {t : Text} (h : escape ∉ t) (title : Bool) (c : Rgb) :
    Decorates (paint ⟨true, title⟩ c t) (paint ⟨false, title⟩ c t) :=
  Text.decorates_paint h c

namespace Table

section Pieces

variable (title : Bool)

theorem escape_notMem_rightpad {t : Text} (h : escape ∉ t) (width : Nat) :
    escape ∉ t.rightpad width ' ' := by
  rw [List.rightpad, List.mem_append, not_or]
  exact ⟨h, fun hspace => absurd (List.eq_of_mem_replicate hspace) (by decide)⟩

theorem decorates_headerCell {header : Text} (h : escape ∉ header) (width : Nat) :
    Decorates (headerCell ⟨true, title⟩ header width) (headerCell ⟨false, title⟩ header width) :=
  Text.decorates_paintBold (escape_notMem_rightpad h width) theme.header

theorem decorates_valueCell (b : Bool) (width : Nat) :
    Decorates (valueCell ⟨true, title⟩ b width) (valueCell ⟨false, title⟩ b width) := by
  have hcell : escape ∉ cell b := by cases b <;> decide
  exact Style.decorates_paint (escape_notMem_rightpad hcell width) title _

/-- A line of decorated cells. -/
theorem decorates_rowPieces {ds ts : List Text} (h : List.Forall₂ Decorates ds ts) :
    Decorates (rowPieces ⟨true, title⟩ ds).flatten (rowPieces ⟨false, title⟩ ts).flatten := by
  have hbar : ∀ {t : Text}, escape ∉ t → Decorates (Style.paint ⟨true, title⟩ theme.border t)
      (Style.paint ⟨false, title⟩ theme.border t) :=
    fun ht => Style.decorates_paint ht title theme.border
  have hleft := hbar (t := "| ".toList) (by decide)
  have hcells := Decorates.intercalate (hbar (t := " | ".toList) (by decide)) h
  have hright := hbar (t := " |".toList) (by decide)
  simp only [rowPieces, List.flatten_cons, List.flatten_nil, List.append_nil]
  exact hleft.append (hcells.append hright)

/-- Cells that are decorated one by one. -/
theorem decorates_zipWith {α : Type} {f g : α → Nat → Text} {l : List α}
    (h : ∀ x ∈ l, ∀ width, Decorates (f x width) (g x width)) (widths : List Nat) :
    List.Forall₂ Decorates (l.zipWith f widths) (l.zipWith g widths) := by
  induction l generalizing widths with
  | nil => exact .nil
  | cons x l ih =>
    obtain ⟨hx, hl⟩ := List.forall_mem_cons.mp h
    cases widths with
    | nil => exact .nil
    | cons width widths => exact .cons (hx width) (ih hl widths)

theorem escape_notMem_separator (widths : List Nat) : escape ∉ separator widths := by
  have hbar : escape ∉ "-|-".toList := by decide
  have hdashes : ∀ c ∈ List.intercalate "-|-".toList (widths.map fun w => List.replicate w '-'),
      c ≠ escape := by
    refine Text.forall_mem_intercalate (fun c hc heq => hbar (heq ▸ hc)) fun t ht c hc => ?_
    obtain ⟨w, -, rfl⟩ := List.mem_map.mp ht
    obtain rfl := List.eq_of_mem_replicate hc
    decide
  exact List.not_mem_append (List.not_mem_append (by decide) fun h => hdashes escape h rfl)
    (by decide)

end Pieces

/-- Decorated lines. -/
theorem decorates_flatMap {ds ts : List Text} (h : List.Forall₂ Decorates ds ts) :
    Decorates (ds.flatMap (· ++ ['\n'])) (ts.flatMap (· ++ ['\n'])) := by
  induction h with
  | nil => exact .nil
  | cons hd _ ih =>
    rw [List.flatMap_cons, List.flatMap_cons]
    exact (hd.append (Text.decorates_self (by decide))).append ih

section Render

variable {t : Table} (h : ∀ header ∈ t.headers, escape ∉ header)

include h

/-- The table below the title, line by line. -/
theorem decorates_lines : List.Forall₂ Decorates ((t.lines ⟨true, false⟩).map List.flatten)
    ((t.lines ⟨false, false⟩).map List.flatten) := by
  let line (color : Bool) (row : List Bool) : Text :=
    (rowPieces ⟨color, false⟩ (row.zipWith (valueCell ⟨color, false⟩) t.widths)).flatten
  have hheaders : List.Forall₂ Decorates (t.headers.zipWith (headerCell ⟨true, false⟩) t.widths)
      (t.headers.zipWith (headerCell ⟨false, false⟩) t.widths) :=
    decorates_zipWith (fun header hheader => decorates_headerCell false (h header hheader)) t.widths
  have hrow : ∀ row ∈ t.rows, Decorates (line true row) (line false row) := fun row _ =>
    decorates_rowPieces false (decorates_zipWith (fun b _ => decorates_valueCell false b) t.widths)
  have hrows : List.Forall₂ Decorates (t.rows.map (line true)) (t.rows.map (line false)) := by
    rw [List.forall₂_map_left_iff, List.forall₂_map_right_iff, List.forall₂_same]
    exact hrow
  have hseparator := Style.decorates_paint (escape_notMem_separator t.widths) false theme.border
  rw [map_flatten_lines, map_flatten_lines]
  exact .cons (decorates_rowPieces false hheaders) (.cons hseparator hrows)

/-- **A table in color decorates the table without it.** -/
theorem decorates_render (hexpression : escape ∉ t.expression) (title : Bool) :
    Decorates (t.render ⟨true, title⟩) (t.render ⟨false, title⟩) := by
  have htable : Decorates (t.render ⟨true, false⟩) (t.render ⟨false, false⟩) := by
    rw [render_eq_flatMap, render_eq_flatMap]
    exact decorates_flatMap (decorates_lines h)
  cases title with
  | false => exact htable
  | true =>
    rw [render_title, render_title]
    exact (Style.decorates_paint hexpression true theme.title).append (.char (by decide) htable)

end Render

end Table

/-! ### Reports -/

/-- The character that the message of an error quotes, if there is one. -/
def LineError.payload? : LineError → Option Char
  | lexical e => some e.char
  | limit _ => none
  | grammar (.variableExpected _) => none
  | grammar (.unexpected t _) => some t.symbol.glyph
  | unbound e => some e.name

section Control

variable {d : Char} (hd : d < ' ')

include hd

/-- A text that is written out here has no control characters. -/
theorem notMem_of_all {t : Text} (h : (t.all fun c => ' ' ≤ c) = true) : d ∉ t :=
  fun hmem => Char.not_lt.mpr (of_decide_eq_true (List.all_eq_true.mp h d hmem)) hd

theorem notMem_ofNat (n : Nat) : d ∉ Text.ofNat n := by
  intro hmem
  have hdigit := Nat.isDigit_of_mem_toDigits (by decide) (by decide) hmem
  have hzero : '0' ≤ d := by
    simp only [Char.isDigit, Bool.and_eq_true, decide_eq_true_eq] at hdigit
    exact hdigit.1
  exact Char.not_lt.mpr (Char.le_trans (by decide) hzero) hd

theorem notMem_atPosition (offset : Nat) : d ∉ atPosition offset :=
  List.not_mem_append (notMem_of_all hd (by decide +kernel)) (notMem_ofNat hd _)

theorem notMem_quoted {t : Text} (h : d ∉ t) : d ∉ '\'' :: t ++ ['\''] := by
  have hquote : d ≠ '\'' := fun heq => absurd (heq ▸ hd) (by decide)
  rw [List.mem_append, List.mem_cons, List.mem_singleton, not_or, not_or]
  exact ⟨⟨hquote, h⟩, hquote⟩

theorem notMem_plainQuoted {c : Char} (h : c ≠ d) : d ∉ plainQuoted c :=
  notMem_quoted hd (t := [c]) (List.mem_singleton.not.mpr h.symm)

theorem notMem_limitMessage {what : Text} (h : d ∉ what) (count max : Nat) :
    d ∉ limitMessage what count max := by
  unfold limitMessage
  simp only [List.mem_append, not_or]
  exact ⟨⟨⟨⟨⟨⟨notMem_of_all hd (by decide +kernel), h⟩, notMem_of_all hd (by decide)⟩,
    notMem_ofNat hd count⟩, notMem_of_all hd (by decide +kernel)⟩, notMem_ofNat hd max⟩,
    notMem_of_all hd (by decide)⟩

/-- **No message has a control character in it** but in the place of the character that it
quotes. -/
theorem LineError.notMem_message {e : LineError} (h : e.payload? ≠ some d) : d ∉ e.message := by
  have hquoted : ∀ {c : Char}, some c ≠ some d → d ∉ plainQuoted c := fun hc =>
    notMem_plainQuoted hd fun heq => hc (congrArg some heq)
  cases e with
  | lexical e =>
    exact List.not_mem_append
      (List.not_mem_append (notMem_of_all hd (by decide +kernel)) (hquoted h))
      (notMem_atPosition hd e.offset)
  | limit e =>
    cases e with
    | tooManyVariables count max =>
      exact notMem_limitMessage hd (notMem_of_all hd (by decide +kernel)) count max
    | tooManyOperators count max =>
      exact notMem_limitMessage hd (notMem_of_all hd (by decide +kernel)) count max
  | grammar e =>
    cases e with
    | variableExpected offset =>
      cases offset with
      | none => exact notMem_of_all hd (by decide +kernel)
      | some offset =>
        exact List.not_mem_append (notMem_of_all hd (by decide +kernel))
          (notMem_atPosition hd offset)
    | unexpected t offset =>
      exact List.not_mem_append
        (List.not_mem_append (notMem_of_all hd (by decide +kernel)) (hquoted h))
        (notMem_atPosition hd offset)
  | unbound e => exact List.not_mem_append (notMem_of_all hd (by decide +kernel)) (hquoted h)

theorem Stage.notMem_name (s : Stage) : d ∉ s.name := by
  cases s <;> exact notMem_of_all hd (by decide +kernel)

/-- What a report says after the line that it quotes. -/
theorem LineError.notMem_statement {e : LineError} (h : e.payload? ≠ some d) :
    d ∉ e.stage.name ++ " error: ".toList ++ e.message :=
  List.not_mem_append (List.not_mem_append (Stage.notMem_name hd _)
    (notMem_of_all hd (by decide +kernel))) (notMem_message hd h)

end Control

/-- **A report in color decorates the report without it.** -/
theorem decorates_report {line : Text} {e : LineError} (hline : escape ∉ line)
    (he : e.payload? ≠ some escape) (title : Bool) :
    Decorates (report ⟨true, title⟩ line e) (report ⟨false, title⟩ line e) := by
  have hcontrol : escape < ' ' := by decide
  have hsubject := notMem_quoted hcontrol hline
  have hstatement := LineError.notMem_statement hcontrol he
  have hend : Decorates ['\n'] ['\n'] := Text.decorates_self (by decide)
  exact ((Style.decorates_paint hsubject title theme.subject).append
    (.char (by decide) (Style.decorates_paint hstatement title theme.error))).append hend

/-! ### What is printed -/

/-- **Taking control sequences out takes the color away, and nothing else**, be it from a table
or from a report. -/
theorem strip_colored :
    (∀ line t title, buildTable line = .ok t →
      strip (t.render ⟨true, title⟩) = t.render ⟨false, title⟩) ∧
    (∀ line e title, escape ∉ line → e.payload? ≠ some escape →
      strip (report ⟨true, title⟩ line e) = report ⟨false, title⟩ line e) := by
  refine ⟨fun line t title h => ?_, fun line e title hline he =>
    (decorates_report hline he title).strip_eq⟩
  obtain ⟨p, hp, -, -, rfl⟩ := buildTable_eq_ok_iff.mp h
  have hforeign := (parse_eq_ok_iff.mp hp).1
  -- an escape character would be foreign, in the line as well as in a header
  have hescape : ∀ {u : Text}, (∀ c ∈ u, isForeign c = false) → escape ∉ u := fun hu hmem =>
    absurd (hu escape hmem) (by decide)
  have hheaders : ∀ header ∈ (p.root.table line.trim).headers, escape ∉ header := by
    intro header hheader
    obtain ⟨g, hg, rfl⟩ := List.mem_map.mp hheader
    exact hescape (Formula.isForeign_eq_false_of_mem_text
      (Formula.isLettered_of_mem_postorder (isLettered_of_parse hp) (Formula.mem_columns.mp hg)))
  exact (Table.decorates_render hheaders (hescape hforeign) title).strip_eq

/-- A table and a report, each of them printed in color and stripped. -/
theorem strip_colored_of_negation :
    (∃ t, buildTable "~A".toList = .ok t ∧ t.render ⟨true, true⟩ ≠ t.render ⟨false, true⟩ ∧
      strip (t.render ⟨true, true⟩) =
        ("~A\n" ++ "| A | ~A |\n" ++ "|---|----|\n" ++ "| T | F  |\n" ++
          "| F | T  |\n").toList) ∧
    ∃ e, buildTable "a".toList = .error e ∧ e.payload? ≠ some escape ∧
      strip (report ⟨true, false⟩ "a".toList e) =
        ("'a' Tokenization error: " ++ "Invalid character 'a' at position 1\n").toList := by
  constructor
  · let line : Text := "~A".toList
    let f : Formula := .neg (.atom 'A')
    have hp : parse line.trim = .ok ⟨f, f.postorder⟩ := by
      rw [parse_eq_ok_iff_exists_scan]
      exact ⟨_, rfl, by rw [parseTokens_eq_read]; rfl⟩
    have h : buildTable line = .ok (f.table line.trim) :=
      buildTable_eq_ok_iff.mpr ⟨_, hp, by decide, by decide, rfl⟩
    refine ⟨_, h, by decide +kernel, ?_⟩
    exact (strip_colored.1 _ _ true h).trans (by decide +kernel)
  · let e : LineError := .lexical ⟨'a', 0⟩
    have h : buildTable "a".toList = .error e :=
      buildTable_eq_of_outcome (.lexical (by decide +kernel))
    have hpayload : e.payload? ≠ some escape := by decide
    refine ⟨e, h, hpayload, ?_⟩
    exact (strip_colored.2 _ e false (by decide) hpayload).trans (by decide +kernel)

end TruthTables
