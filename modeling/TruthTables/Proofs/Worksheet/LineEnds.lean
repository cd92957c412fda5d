import TruthTables.Worksheet
import TruthTables.Proofs.Text.Lines

/-!
# How the lines of a worksheet end

The entries of a worksheet depend on its lines only as they are when they are trimmed, and on
how many lines come before each.  So it makes no difference what white space is at the ends
of a line, carriage returns before line feeds included, nor whether the last line is ended
by a line feed.  And as only a line feed ends a line, every other character, white space or
not, stays inside the line that it is in.

## Main definitions

* `Text.withReturns t` — `t` with a carriage return put before each line feed.
* `Text.widen v w t` — `t` with `v i` put before its line number `i`, counted from 0, and
  `w i` after it.

## Main results

* `worksheet_congr` — lines that are equal when trimmed have the same entries.
* `worksheet_eq_map_nonblank` — there is an entry for each line that is not blank.
* `worksheet_append_cons` — a character other than a line feed ends no line.
* `worksheet_lineEnds` — **neither the ends of lines nor white space there matter.**
-/

namespace TruthTables

namespace Text

/-- A text with a carriage return put before each line feed. -/
def withReturns (t : Text) : Text := t.flatMap fun c => if c = '\n' then ['\r', '\n'] else [c]

/-- A text with something put before and after each of its lines. -/
def widen (v w : Nat → Text) (t : Text) : Text :=
  ['\n'].intercalate (t.pieces.mapIdx fun i p => v i ++ p ++ w i)

theorem withReturns_of_notMem {t : Text} (h : '\n' ∉ t) : withReturns t = t := by
  induction t with
  | nil => rfl
  | cons c t ih =>
    obtain ⟨hc, ht⟩ := List.ne_and_not_mem_of_not_mem_cons h
    have htail := ih ht
    unfold withReturns at htail ⊢
    rw [List.flatMap_cons, if_neg hc.symm, htail]
    rfl

theorem withReturns_append_newline {p : Text} (hp : '\n' ∉ p) (t : Text) :
    withReturns (p ++ '\n' :: t) = (p ++ ['\r']) ++ '\n' :: withReturns t := by
  have hline := withReturns_of_notMem hp
  unfold withReturns at hline ⊢
  rw [List.flatMap_append, hline, List.flatMap_cons, if_pos rfl, List.append_assoc]
  rfl

/-- A carriage return before a line feed is trimmed off. -/
theorem map_trim_pieces_withReturns (t : Text) :
    (pieces (withReturns t)).map trim = (pieces t).map trim := by
  induction t using induction_on_lines with
  | last t ht => rw [withReturns_of_notMem ht]
  | line p t hp ih =>
    have hline : '\n' ∉ p ++ ['\r'] := by simpa using hp
    rw [withReturns_append_newline hp, pieces_append_newline, pieces_append_newline,
      pieces_of_notMem hline, pieces_of_notMem hp, List.map_append, List.map_append, ih,
      List.map_singleton, List.map_singleton, trim_concat_return]

section Widen

variable {v w : Nat → Text} (hv : ∀ i, ∀ c ∈ v i, isBlank c = true ∧ c ≠ '\n')
  (hw : ∀ i, ∀ c ∈ w i, isBlank c = true ∧ c ≠ '\n')

include hv hw

/-- White space other than line feeds makes no new line. -/
theorem pieces_widen (t : Text) :
    pieces (widen v w t) = t.pieces.mapIdx fun i p => v i ++ p ++ w i := by
  refine List.splitOn_intercalate '\n' (fun q hq => ?_) ?_
  · obtain ⟨i, hi, rfl⟩ := List.mem_mapIdx.mp hq
    have hp := notMem_of_mem_pieces t _ (List.getElem_mem hi)
    have hvi : '\n' ∉ v i := fun h => (hv i _ h).2 rfl
    have hwi : '\n' ∉ w i := fun h => (hw i _ h).2 rfl
    simp only [List.mem_append, not_or]
    exact ⟨⟨hvi, hp⟩, hwi⟩
  · rw [List.mapIdx_ne_nil_iff]
    exact List.splitOn_ne_nil '\n' t

/-- White space at the ends of lines is trimmed off. -/
theorem map_trim_pieces_widen (t : Text) : (pieces (widen v w t)).map trim = t.pieces.map trim := by
  rw [pieces_widen hv hw]
  refine List.ext_getElem? fun i => ?_
  rw [List.getElem?_map, List.getElem?_mapIdx, List.getElem?_map, Option.map_map]
  refine congrArg (Option.map · _) (funext fun p => ?_)
  exact trim_widened (fun c hc => (hv i c hc).1) (fun c hc => (hw i c hc).1) p

end Widen

/-- Pieces that are equal one by one when they are trimmed. -/
theorem map_trim_pieces_of_zip {s t : Text} (hcount : s.count '\n' = t.count '\n')
    (h : ∀ x ∈ s.pieces.zip t.pieces, x.1.trim = x.2.trim) :
    s.pieces.map trim = t.pieces.map trim := by
  have hlength : s.pieces.length = t.pieces.length := by
    rw [length_pieces, length_pieces, hcount]
  calc s.pieces.map trim
      = ((s.pieces.zip t.pieces).map Prod.fst).map trim := by rw [List.map_fst_zip hlength.le]
    _ = ((s.pieces.zip t.pieces).map Prod.snd).map trim := by
        rw [List.map_map, List.map_map]
        exact List.map_congr_left h
    _ = t.pieces.map trim := by rw [List.map_snd_zip hlength.ge]

end Text

/-! ### Worksheets -/

/-- **Lines that are equal when trimmed have the same entries.** -/
theorem worksheet_congr {s t : Text} (h : s.pieces.map Text.trim = t.pieces.map Text.trim) :
    worksheet s = worksheet t := by
  rw [worksheet, Text.filledLines, Text.numbered_congr h, ← Text.filledLines, ← worksheet]

/-- A line feed at the end makes no difference. -/
theorem worksheet_concat_newline (t : Text) : worksheet (t ++ ['\n']) = worksheet t := by
  have hlines : Text.filledLines (t ++ ['\n']) = t.filledLines := by
    rw [Text.filledLines, Text.pieces_append_newline, Text.numbered_append, Text.pieces_nil,
      Text.filledLines]
    simp [Text.numbered]
  rw [worksheet, hlines, worksheet]

/-- **A character other than a line feed ends no line.**  What stands before it in its line
and what stands after it there are one line. -/
theorem worksheet_append_cons {c : Char} (hc : c ≠ '\n') (a b : Text) :
    ∃ ps p q qs, a.pieces = ps ++ [p] ∧ b.pieces = q :: qs ∧
      worksheet (a ++ c :: b) =
        (Text.nonblankOf (ps ++ (p ++ c :: q) :: qs)).map fun x => Entry.ofLine ⟨x.2, x.1⟩ := by
  obtain ⟨q, qs, hb⟩ := Text.exists_pieces_eq_cons b
  have hsingle : '\n' ∉ [c] := by simpa using hc.symm
  have hcb : Text.pieces (c :: b) = (c :: q) :: qs := Text.pieces_append_of_notMem hsingle hb
  obtain ⟨ps, p, q', qs', ha, hcb', hab⟩ := Text.exists_pieces_append a (c :: b)
  obtain ⟨rfl, rfl⟩ := List.cons_eq_cons.mp (hcb.symm.trans hcb')
  refine ⟨ps, p, q, qs, ha, hb, ?_⟩
  rw [worksheet, Text.filledLines, hab, Text.numbered_eq_filter_zipIdx, List.map_map]
  rfl

/-- **There is an entry for each line that is not blank**, with its number among all lines. -/
theorem worksheet_eq_map_nonblank (t : Text) :
    worksheet t = t.nonblank.map fun x => Entry.ofLine ⟨x.2, x.1⟩ := by
  rw [worksheet, Text.filledLines_eq_nonblank, List.map_map]
  rfl

theorem length_worksheet (t : Text) : (worksheet t).length = t.nonblank.length := by
  rw [worksheet_eq_map_nonblank, List.length_map]

/-- **Neither the ends of lines nor white space there matter.**  Texts with equally many line
feeds and with lines that are equal when trimmed have the same entries, and so the same
summary.  In particular nothing changes if carriage returns are put before all line feeds, if
white space other than line feeds is put at the ends of lines, or if a line feed is put at the
end of the text; and lines can as well be taken without the carriage return and the line feed
that end them, where there is one entry for each that is not blank, with its number among all.  But
nothing other than a line feed ends a line. -/
theorem worksheet_lineEnds :
    (∀ s t : Text, s.count '\n' = t.count '\n' →
      (∀ x ∈ s.pieces.zip t.pieces, x.1.trim = x.2.trim) →
      worksheet s = worksheet t ∧
        Summary.ofEntries (worksheet s) = Summary.ofEntries (worksheet t)) ∧
    (∀ t : Text, worksheet t.withReturns = worksheet t) ∧
    (∀ (t : Text) (v w : Nat → Text), (∀ i, ∀ c ∈ v i, isBlank c = true ∧ c ≠ '\n') →
      (∀ i, ∀ c ∈ w i, isBlank c = true ∧ c ≠ '\n') →
      worksheet (t.widen v w) = worksheet t) ∧
    (∀ t : Text, worksheet (t ++ ['\n']) = worksheet t) ∧
    (∀ t : Text, worksheet t = t.nonblank.map fun x => Entry.ofLine ⟨x.2, x.1⟩) ∧
    ∀ c : Char, c ≠ '\n' → ∀ a b : Text,
      ∃ ps p q qs, a.pieces = ps ++ [p] ∧ b.pieces = q :: qs ∧
        worksheet (a ++ c :: b) =
          (Text.nonblankOf (ps ++ (p ++ c :: q) :: qs)).map fun x => Entry.ofLine ⟨x.2, x.1⟩ := by
  refine ⟨fun s t hcount h => ?_, fun t => ?_, fun t v w hv hw => ?_, worksheet_concat_newline,
    worksheet_eq_map_nonblank, fun c hc a b => worksheet_append_cons hc a b⟩
  · have hentries := worksheet_congr (Text.map_trim_pieces_of_zip hcount h)
    exact ⟨hentries, congrArg Summary.ofEntries hentries⟩
  · exact worksheet_congr (Text.map_trim_pieces_withReturns t)
  · exact worksheet_congr (Text.map_trim_pieces_widen hv hw t)

/-- Two texts with other line ends and other margins, one of which has a line separator and a
lone carriage return inside a line. -/
theorem worksheet_lineEnds_of_margins :
    let s : Text := "A\r\n\n\u3000~B∨\u2028C".toList
    let t : Text := " A\n\u0085\r\n~B∨\u2028C\t".toList
    s.count '\n' = t.count '\n' ∧ (∀ x ∈ s.pieces.zip t.pieces, x.1.trim = x.2.trim) ∧
      worksheet s = worksheet t ∧
      worksheet (t.widen (fun _ => ['\r']) fun _ => ['\x0b', ' ']) = worksheet t ∧
      ∃ ps p q qs, s.pieces = ps ++ [p] ∧ t.pieces = q :: qs ∧
        worksheet (s ++ '\r' :: t) =
          (Text.nonblankOf (ps ++ (p ++ '\r' :: q) :: qs)).map fun x =>
            Entry.ofLine ⟨x.2, x.1⟩ := by
  intro s t
  obtain ⟨hcongr, -, hwiden, -, -, hnone⟩ := worksheet_lineEnds
  have hcount : s.count '\n' = t.count '\n' := by decide
  have hpieces : ∀ x ∈ s.pieces.zip t.pieces, x.1.trim = x.2.trim := by decide
  have hreturn : ∀ i : Nat, ∀ c ∈ (fun _ => ['\r'] : Nat → Text) i,
      isBlank c = true ∧ c ≠ '\n' :=
    fun _ => List.forall_mem_singleton.mpr ⟨rfl, by decide⟩
  have htab : ∀ i : Nat, ∀ c ∈ (fun _ => ['\x0b', ' '] : Nat → Text) i,
      isBlank c = true ∧ c ≠ '\n' :=
    fun _ => List.forall_mem_cons.mpr
      ⟨⟨rfl, by decide⟩, List.forall_mem_singleton.mpr ⟨rfl, by decide⟩⟩
  exact ⟨hcount, hpieces, (hcongr s t hcount hpieces).1, hwiden t _ _ hreturn htab,
    hnone '\r' (by decide) s t⟩

end TruthTables
