import TruthTables.Proofs.Table.Correctness
import TruthTables.Proofs.Text.Bars
import TruthTables.Table.Render

/-!
# The layout of printed tables

Without color, all lines of a printed table are made in one way: there are cells between bars,
and the cells of each line are as wide as the headers.  In the line of headers the cells are the
headers themselves, in the line below they are dashes, and in the other lines each is the letter
of a truth value and spaces after it.  As no header has a bar in it, the bars of all lines stand
one under the other.  As no header has white space at its ends, nothing is lost when the cells
are cut out and trimmed.  So the printed table can be read back.

## Main definitions

* `Table.readLines?` — the headers and the rows that the lines of a printed table show.
* `Table.Legible t` — the headers of `t` cannot be confused with what is printed around them.
* `Ruled widths l` — `l` is a line of cells with these widths.
* `Table.LaidOut t ls` — the lines `ls` show `t`, in columns as wide as the headers.
* `Table.plainLines t` — the lines of `t`, made of cells between bars.

## Main results

* `Formula.legible_table` — the table of a formula is legible.
* `Table.Legible.flatten_lines` — what is printed of a legible table are these lines.
* `buildTable_laidOut` — **how a table is printed, and that it can be read back.**
-/

namespace TruthTables

namespace Table

/-! ### Reading printed tables -/

/-- What is written entry by entry is read entry by entry. -/
theorem mapM_map_eq_some {α β γ : Type} {write : α → β} {read : β → Option γ} {f : α → γ}
    {l : List α} (h : ∀ x ∈ l, read (write x) = some (f x)) :
    (l.map write).mapM read = some (l.map f) := by
  induction l with
  | nil => rfl
  | cons x l ih =>
    obtain ⟨hx, hl⟩ := List.forall_mem_cons.mp h
    rw [List.map_cons, List.mapM_cons, hx, ih hl]
    rfl

/-- The truth value that an entry stands for. -/
def readTruth? : Text → Option Bool
  | ['T'] => some true
  | ['F'] => some false
  | _ => none

@[simp] theorem readTruth?_cell (b : Bool) : readTruth? (cell b) = some b := by
  cases b <;> rfl

/-- The entries of a line with bars at these offsets. -/
def entriesAt (bars : List Nat) (line : Text) : List Text :=
  (Text.between line bars).map Text.trim

/-- The truth values of a line with bars at these offsets. -/
def readRow? (bars : List Nat) (line : Text) : Option (List Bool) :=
  (entriesAt bars line).mapM readTruth?

/-- The headers and the rows that the lines of a printed table show.  All lines are cut where
the first one has its bars, and nothing is read from the second one. -/
def readLines? : List Text → Option (List Text × List (List Bool))
  | header :: _ :: rows =>
    let bars := header.idxsOf '|'
    (rows.mapM (readRow? bars)).map fun values => (entriesAt bars header, values)
  | _ => none

/-- The lines `ls` show the table `t`, in columns that are as wide as the headers. -/
structure LaidOut (t : Table) (ls : List Text) : Prop where
  /-- There is a line of headers, one below it, and one for each choice of truth values. -/
  length_lines : ls.length = 2 + Nat.pow 2 t.vars.size
  /-- No line falls into several. -/
  notMem_newline : ∀ l ∈ ls, '\n' ∉ l
  /-- The width of a column is that of its header. -/
  widths_eq : t.widths = t.headers.map List.length
  /-- All lines have one length. -/
  length_line : ∀ l ∈ ls, l.length = 1 + (t.widths.map (· + 3)).sum
  /-- All lines have bars on both sides of each column, and nowhere else. -/
  bars : ∀ l ∈ ls, l.idxsOf '|' = Text.barOffsets 0 t.widths
  /-- The table can be read back. -/
  read : readLines? ls = some (t.headers, t.rows)

end Table

/-! ### Ruled lines -/

/-- A line of cells with these widths; nothing in a cell looks like the end of the cell or the
end of the line. -/
inductive Ruled (widths : List Nat) : Text → Prop
  /-- Cells with some character on both sides of each. -/
  | cells {fill : Char} {cells : List Text} (hbar : fill ≠ '|') (hnewline : fill ≠ '\n')
    (hwidths : cells.map List.length = widths) (hcells : ∀ c ∈ cells, '|' ∉ c ∧ '\n' ∉ c) :
    Ruled widths (Text.barLine fill cells)

namespace Ruled

variable {widths : List Nat} {l : Text}

theorem notMem_newline (h : Ruled widths l) : '\n' ∉ l := by
  obtain ⟨-, hnewline, -, hcells⟩ := h
  exact Text.notMem_barLine (by decide) hnewline.symm fun c hc => (hcells c hc).2

theorem length_eq (h : Ruled widths l) : l.length = 1 + (widths.map (· + 3)).sum := by
  obtain ⟨-, -, rfl, -⟩ := h
  rw [Text.length_barLine, List.map_map]
  rfl

theorem idxsOf_eq (h : Ruled widths l) : l.idxsOf '|' = Text.barOffsets 0 widths := by
  obtain ⟨hbar, -, rfl, hcells⟩ := h
  exact Text.idxsOf_barLine hbar (fun c hc => (hcells c hc).1) 0

end Ruled

/-- Spaces on both sides of a cell are trimmed off, and so are those that fill it. -/
theorem Text.trim_between_spaces (t : Text) (n : Nat) :
    Text.trim ([' '] ++ (t ++ List.replicate n ' ') ++ [' ']) = t.trim := by
  have hfill : ∀ c ∈ List.replicate n ' ' ++ [' '], isBlank c = true := by
    intro c hc
    rcases List.mem_append.mp hc with hc | hc
    · obtain rfl := List.eq_of_mem_replicate hc
      rfl
    · obtain rfl := List.mem_singleton.mp hc
      rfl
  have hstart : ∀ c ∈ [' '], isBlank c = true := List.forall_mem_singleton.mpr rfl
  rw [← Text.trim_widened hstart hfill t]
  simp

namespace Table

/-! ### Legible tables -/

/-- The headers of a table cannot be confused with what is printed around them, and each row
has an entry for each of them. -/
structure Legible (t : Table) : Prop where
  /-- There is a column. -/
  headers_ne_nil : t.headers ≠ []
  /-- No header is empty. -/
  ne_nil : ∀ header ∈ t.headers, header ≠ []
  /-- No header has a bar or a line feed in it. -/
  notMem : ∀ header ∈ t.headers, '|' ∉ header ∧ '\n' ∉ header
  /-- No header has white space at its ends. -/
  trim_eq : ∀ header ∈ t.headers, header.trim = header
  /-- Each row has an entry for each header. -/
  length_row : ∀ row ∈ t.rows, row.length = t.headers.length

/-- The cells of a row without color: letters, with spaces after them. -/
def rowCells (t : Table) (row : List Bool) : List Text :=
  (row.zip t.widths).map fun p => cell p.1 ++ List.replicate (p.2 - 1) ' '

/-- The dashes below the headers. -/
def dashes (t : Table) : List Text := t.widths.map fun w => List.replicate w '-'

/-- The lines of a table, without color and title. -/
def plainLines (t : Table) : List Text :=
  Text.barLine ' ' t.headers :: Text.barLine '-' t.dashes ::
    t.rows.map fun row => Text.barLine ' ' (t.rowCells row)

/-! ### The cells of a line -/

section Cells

variable (t : Table)

theorem zipWith_valueCell (title : Bool) (row : List Bool) :
    row.zipWith (valueCell ⟨false, title⟩) t.widths = t.rowCells row := by
  rw [rowCells, List.map_zip_eq_zipWith]
  rfl

theorem ruled_dashes : Ruled t.widths (Text.barLine '-' t.dashes) := by
  have hlength : ∀ w ∈ t.widths, (List.replicate w '-').length = w :=
    fun _ _ => List.length_replicate
  refine .cells (by decide) (by decide) ?_ fun c hc => ?_
  · rw [dashes, List.map_map]
    exact (List.map_congr_left hlength).trans (List.map_id _)
  · obtain ⟨w, -, rfl⟩ := List.mem_map.mp hc
    exact ⟨fun h => absurd (List.eq_of_mem_replicate h) (by decide),
      fun h => absurd (List.eq_of_mem_replicate h) (by decide)⟩

/-- The lines below the title, each in one piece. -/
theorem map_flatten_lines (color : Bool) : (t.lines ⟨color, false⟩).map List.flatten =
    (rowPieces ⟨color, false⟩ (t.headers.zipWith (headerCell ⟨color, false⟩) t.widths)).flatten ::
      Style.paint ⟨color, false⟩ theme.border (separator t.widths) ::
        t.rows.map fun row =>
          (rowPieces ⟨color, false⟩ (row.zipWith (valueCell ⟨color, false⟩) t.widths)).flatten := by
  simp [lines, titleLines, Function.comp_def]

end Cells

namespace Legible

variable {t : Table} (h : t.Legible)

include h

/-- No value is wider than its header. -/
theorem widths_eq_map_length : t.widths = t.headers.map List.length := by
  have hwidth : ∀ x ∈ t.headers.zipIdx, columnWidth x.1 (t.columnAt x.2) = x.1.length := by
    intro x hx
    have hpos := List.length_pos_iff.mpr (h.ne_nil x.1 (List.fst_mem_of_mem_zipIdx hx))
    rw [columnWidth_eq]
    split <;> omega
  calc t.widths
      = t.headers.zipIdx.map fun x => x.1.length := List.map_congr_left hwidth
    _ = (t.headers.zipIdx.map Prod.fst).map List.length := List.map_map.symm
    _ = t.headers.map List.length := by rw [List.zipIdx_map_fst]

theorem one_le_of_mem_widths : ∀ w ∈ t.widths, 1 ≤ w := by
  intro w hw
  rw [h.widths_eq_map_length] at hw
  obtain ⟨header, hheader, rfl⟩ := List.mem_map.mp hw
  exact List.length_pos_iff.mpr (h.ne_nil header hheader)

theorem zipWith_headerCell (title : Bool) :
    t.headers.zipWith (headerCell ⟨false, title⟩) t.widths = t.headers := by
  have hself : ∀ header ∈ t.headers, header.rightpad header.length ' ' = header := by
    intro header _
    rw [List.rightpad, Nat.sub_self, List.replicate_zero, List.append_nil]
  rw [h.widths_eq_map_length, List.zipWith_map_right, List.zipWith_self]
  exact (List.map_congr_left hself).trans (List.map_id _)

theorem ruled_headers : Ruled t.widths (Text.barLine ' ' t.headers) :=
  .cells (by decide) (by decide) h.widths_eq_map_length.symm h.notMem

/-- The headers are read off their line. -/
theorem entriesAt_headers :
    entriesAt (Text.barOffsets 0 t.widths) (Text.barLine ' ' t.headers) = t.headers := by
  have htrim : ∀ header ∈ t.headers, Text.trim ([' '] ++ header ++ [' ']) = header := by
    intro header hheader
    have hspaces := Text.trim_between_spaces header 0
    rw [List.replicate_zero, List.append_nil] at hspaces
    rw [hspaces, h.trim_eq header hheader]
  rw [h.widths_eq_map_length, entriesAt, Text.between_barLine, List.map_map]
  exact (List.map_congr_left htrim).trans (List.map_id _)

section Row

variable {row : List Bool} (hrow : row ∈ t.rows)

include hrow

theorem length_row_eq : row.length = t.widths.length := by
  rw [h.length_row row hrow, h.widths_eq_map_length, List.length_map]

theorem map_length_rowCells : (t.rowCells row).map List.length = t.widths := by
  have hlength : ∀ p ∈ row.zip t.widths,
      (cell p.1 ++ List.replicate (p.2 - 1) ' ').length = p.2 := by
    intro p hp
    have hpos := h.one_le_of_mem_widths p.2 (List.of_mem_zip hp).2
    rw [List.length_append, List.length_replicate, cell, List.length_singleton]
    omega
  rw [rowCells, List.map_map]
  exact (List.map_congr_left hlength).trans
    (List.map_snd_zip (Nat.le_of_eq (h.length_row_eq hrow).symm))

theorem ruled_row : Ruled t.widths (Text.barLine ' ' (t.rowCells row)) := by
  refine .cells (by decide) (by decide) (h.map_length_rowCells hrow) fun c hc => ?_
  obtain ⟨⟨b, w⟩, -, rfl⟩ := List.mem_map.mp hc
  have hcell : ∀ d, d ∉ cell b → d ≠ ' ' → d ∉ cell b ++ List.replicate (w - 1) ' ' :=
    fun d hd hspace hmem => (List.mem_append.mp hmem).elim hd fun hmem =>
      hspace (List.eq_of_mem_replicate hmem)
  have hbar : '|' ∉ cell b := by cases b <;> decide
  have hnewline : '\n' ∉ cell b := by cases b <;> decide
  exact ⟨hcell '|' hbar (by decide), hcell '\n' hnewline (by decide)⟩

/-- The values of a row are read off its line. -/
theorem readRow?_rowCells :
    readRow? (Text.barOffsets 0 t.widths) (Text.barLine ' ' (t.rowCells row)) = some row := by
  have hread : ∀ p : Bool × Nat, readTruth?
      (Text.trim ([' '] ++ (cell p.1 ++ List.replicate (p.2 - 1) ' ') ++ [' '])) = some p.1 := by
    intro p
    have htrim : (cell p.1).trim = cell p.1 := by cases p.1 <;> decide
    rw [Text.trim_between_spaces, htrim, readTruth?_cell]
  rw [← h.map_length_rowCells hrow, readRow?, entriesAt, Text.between_barLine, rowCells,
    List.map_map, List.map_map]
  exact (mapM_map_eq_some fun p _ => hread p).trans
    (congrArg some (List.map_fst_zip (Nat.le_of_eq (h.length_row_eq hrow))))

end Row

/-! ### The printed lines -/

/-- **What is printed of a legible table** are lines of cells between bars. -/
theorem flatten_lines : (t.lines ⟨false, false⟩).map List.flatten = t.plainLines := by
  have hflatten : ∀ {cells : List Text}, cells ≠ [] →
      (rowPieces ⟨false, false⟩ cells).flatten = Text.barLine ' ' cells := by
    intro cells hne
    rw [Text.barLine_eq_intercalate ' ' hne]
    simp [rowPieces, Style.paint]
  have hwidths : t.widths ≠ [] := by
    rw [h.widths_eq_map_length]
    exact mt List.map_eq_nil_iff.mp h.headers_ne_nil
  have hdashes : Style.paint ⟨false, false⟩ theme.border (separator t.widths) =
      Text.barLine '-' t.dashes := by
    rw [Text.barLine_eq_intercalate '-' (by simpa [dashes] using hwidths)]
    simp [separator, Style.paint, dashes]
  have hrow : ∀ row ∈ t.rows,
      (rowPieces ⟨false, false⟩ (row.zipWith (valueCell ⟨false, false⟩) t.widths)).flatten =
        Text.barLine ' ' (t.rowCells row) := by
    intro row hrow
    -- there are as many cells as columns
    have hcells : t.rowCells row ≠ [] := by
      intro hnil
      have hlength := h.map_length_rowCells hrow
      rw [hnil] at hlength
      exact hwidths hlength.symm
    rw [zipWith_valueCell, hflatten hcells]
  rw [map_flatten_lines, h.zipWith_headerCell, hflatten h.headers_ne_nil, hdashes,
    List.map_congr_left hrow, plainLines]

theorem ruled_plainLines : ∀ l ∈ t.plainLines, Ruled t.widths l := by
  intro l hl
  rw [plainLines, List.mem_cons, List.mem_cons, List.mem_map] at hl
  rcases hl with rfl | rfl | ⟨row, hrow, rfl⟩
  · exact h.ruled_headers
  · exact t.ruled_dashes
  · exact h.ruled_row hrow

theorem readLines?_plainLines : readLines? t.plainLines = some (t.headers, t.rows) := by
  have hread : (t.rows.map fun row => Text.barLine ' ' (t.rowCells row)).mapM
      (readRow? (Text.barOffsets 0 t.widths)) = some (t.rows.map id) :=
    mapM_map_eq_some fun row hrow => h.readRow?_rowCells hrow
  rw [List.map_id] at hread
  rw [plainLines, readLines?, h.ruled_headers.idxsOf_eq]
  simp only [h.entriesAt_headers, hread, Option.map_some]

/-- **The lines of a legible table are laid out in columns**, and say what the table says. -/
theorem laidOut_plainLines (hrows : t.rows.length = Nat.pow 2 t.vars.size) :
    t.LaidOut t.plainLines where
  length_lines := by
    rw [plainLines, List.length_cons, List.length_cons, List.length_map, hrows, Nat.add_comm 2]
  notMem_newline := fun l hl => (h.ruled_plainLines l hl).notMem_newline
  widths_eq := h.widths_eq_map_length
  length_line := fun l hl => (h.ruled_plainLines l hl).length_eq
  bars := fun l hl => (h.ruled_plainLines l hl).idxsOf_eq
  read := h.readLines?_plainLines

end Legible

/-! ### Printed tables -/

/-- What is printed is the lines, each ended by a line feed. -/
theorem render_eq_flatMap (s : Style) (t : Table) :
    t.render s = ((t.lines s).map List.flatten).flatMap (· ++ ['\n']) := by
  rw [render, pieces, List.flatMap_map]
  induction t.lines s with
  | nil => rfl
  | cons l ls ih =>
    rw [List.flatMap_cons, List.flatMap_cons, List.flatten_append, List.flatten_append, ih]
    rfl

/-- The title is a line before all others. -/
theorem render_title (color : Bool) (t : Table) :
    t.render ⟨color, true⟩ =
      Style.paint ⟨color, true⟩ theme.title t.expression ++ '\n' :: t.render ⟨color, false⟩ := by
  have hlines : t.lines ⟨color, true⟩ =
      [Style.paint ⟨color, true⟩ theme.title t.expression] :: t.lines ⟨color, false⟩ := rfl
  rw [render_eq_flatMap, render_eq_flatMap, hlines]
  simp

end Table

/-- The table of a formula with letters as variables is legible. -/
theorem Formula.legible_table {f : Formula} (h : f.IsLettered) (expression : Text) :
    (f.table expression).Legible := by
  have hlettered : ∀ g ∈ f.columns, g.IsLettered := fun g hg =>
    isLettered_of_mem_postorder h (mem_columns.mp hg)
  refine ⟨?_, ?_, ?_, ?_, ?_⟩
  · intro hnil
    have hlast := f.getLast?_columns
    have hcolumns : f.columns = [] := List.map_eq_nil_iff.mp hnil
    rw [hcolumns] at hlast
    cases hlast
  · intro header hheader
    obtain ⟨g, -, rfl⟩ := List.mem_map.mp hheader
    exact g.text_ne_nil
  · intro header hheader
    obtain ⟨g, hg, rfl⟩ := List.mem_map.mp hheader
    -- all in a written form but the spaces around connectives is a symbol
    have hforeign : ∀ d, d ≠ ' ' → symbolOf? d = none → d ∉ g.text := by
      intro d hspace hnone hmem
      rcases mem_text (hlettered g hg) hmem with hd | hd
      · exact hspace hd
      · rw [hnone] at hd
        cases hd
    exact ⟨hforeign '|' (by decide) (by decide), hforeign '\n' (by decide) (by decide)⟩
  · intro header hheader
    obtain ⟨g, hg, rfl⟩ := List.mem_map.mp hheader
    exact trim_text (hlettered g hg)
  · intro row hrow
    obtain ⟨i, hi⟩ := List.getElem?_of_mem hrow
    rw [getElem?_rows_table expression f hi, Table.headers, List.length_map, List.length_map]
    rfl

/-- **How a table is printed.** -/
theorem buildTable_laidOut {line : Text} {t : Table} (h : buildTable line = .ok t) :
    (∃ ls, t.render ⟨false, false⟩ = ls.flatMap (· ++ ['\n']) ∧ t.LaidOut ls) ∧
      t.render ⟨false, true⟩ = t.expression ++ '\n' :: t.render ⟨false, false⟩ := by
  obtain ⟨p, hp, -, -, rfl⟩ := buildTable_eq_ok_iff.mp h
  have hlegible := Formula.legible_table (isLettered_of_parse hp) line.trim
  refine ⟨⟨_, ?_, hlegible.laidOut_plainLines (p.root.length_rows_table line.trim)⟩, ?_⟩
  · rw [Table.render_eq_flatMap, hlegible.flatten_lines]
  · exact Table.render_title false _

/-- The table of a conjunction, which is printed in six lines. -/
theorem buildTable_laidOut_of_conjunction :
    ∃ t ls, buildTable " A∧B".toList = .ok t ∧
      t.render ⟨false, false⟩ = ls.flatMap (· ++ ['\n']) ∧ t.LaidOut ls ∧
      t.render ⟨false, true⟩ = ("A∧B\n" ++ "| A | B | A ∧ B |\n" ++ "|---|---|-------|\n" ++
        "| T | T | T     |\n" ++ "| T | F | F     |\n" ++ "| F | T | F     |\n" ++
        "| F | F | F     |\n").toList := by
  let line : Text := " A∧B".toList
  let f : Formula := .bin .and (.atom 'A') (.atom 'B')
  have hp : parse line.trim = .ok ⟨f, f.postorder⟩ := by
    rw [parse_eq_ok_iff_exists_scan]
    exact ⟨_, rfl, by rw [parseTokens_eq_read]; rfl⟩
  have h : buildTable line = .ok (f.table line.trim) :=
    buildTable_eq_ok_iff.mpr ⟨_, hp, by decide, by decide, rfl⟩
  obtain ⟨⟨ls, hprinted, hlaidOut⟩, -⟩ := buildTable_laidOut h
  exact ⟨_, ls, h, hprinted, hlaidOut, by decide +kernel⟩

end TruthTables
