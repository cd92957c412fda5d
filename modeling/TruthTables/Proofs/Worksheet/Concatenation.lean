import TruthTables.Worksheet
import TruthTables.Proofs.Text.Lines

/-!
# Worksheets one after the other

Every line of a worksheet is worked out by itself.  So two worksheets with a line feed
between them have the entries of the first and then those of the second, whatever comes of
any line, and with no change but that the lines of the second are counted on.

A summary counts entries.  One entry more adds the same to any summary
(`Summary.add_record`), so what some entries add to a summary does not depend on what it
was before (`Summary.foldl_record_add`), and the summary of all entries is a sum.

## Main definitions

* `Entry.shift d e` — the entry `e` of a line with a number larger by `d`.
* `Summary.add` — the sum of two summaries, field by field.

## Main results

* `Summary.ofEntries_append` — the summary of entries one after the other.
* `worksheet_append_newline` — **the worksheets on both sides of a line feed.**
-/

namespace TruthTables

/-- The entry of a line with a larger number: what the line says and what it comes to is
the same. -/
def Entry.shift (d : Nat) (e : Entry) : Entry := ⟨e.line.shift d, e.build⟩

theorem Entry.ofLine_shift (d : Nat) (l : NumberedLine) :
    Entry.ofLine (l.shift d) = (Entry.ofLine l).shift d := rfl

/-! ### Summaries -/

namespace Summary

/-- The sum of two summaries, field by field. -/
def add (s t : Summary) : Summary :=
  ⟨s.lines + t.lines, s.tables + t.tables, s.failures + t.failures⟩

@[simp] theorem add_empty (s : Summary) : s.add empty = s := rfl

/-- **One entry more** adds the same to a summary, whatever is in it. -/
theorem add_record (s t : Summary) (e : Entry) : (s.add t).record e = s.add (t.record e) := by
  rw [record, record]
  cases e.result <;> simp only [add, Nat.add_assoc]

/-- So do some entries. -/
theorem foldl_record_add (es : List Entry) (s t : Summary) :
    es.foldl record (s.add t) = s.add (es.foldl record t) := by
  induction es generalizing t with
  | nil => rfl
  | cons e es ih => rw [List.foldl_cons, List.foldl_cons, add_record, ih]

/-- **The summary of entries one after the other** is the sum of their summaries. -/
theorem ofEntries_append (es fs : List Entry) :
    ofEntries (es ++ fs) = (ofEntries es).add (ofEntries fs) :=
  calc ofEntries (es ++ fs)
      = fs.foldl record (ofEntries es) := List.foldl_append ..
    _ = fs.foldl record ((ofEntries es).add empty) := by rw [add_empty]
    _ = (ofEntries es).add (ofEntries fs) := foldl_record_add fs (ofEntries es) empty

/-- The numbers of lines are not counted. -/
theorem ofEntries_map_shift (d : Nat) (es : List Entry) :
    ofEntries (es.map (.shift d)) = ofEntries es := by
  rw [ofEntries, List.foldl_map, ofEntries]
  rfl

end Summary

/-! ### Worksheets -/

/-- **The worksheets on both sides of a line feed.**  The entries are those of the first
and then those of the second, with the lines counted on; and the summary is the sum of
the summaries. -/
theorem worksheet_append_newline (a b : Text) :
    worksheet (a ++ '\n' :: b) =
        worksheet a ++ (worksheet b).map (.shift (a.count '\n' + 1)) ∧
      Summary.ofEntries (worksheet (a ++ '\n' :: b)) =
        (Summary.ofEntries (worksheet a)).add (Summary.ofEntries (worksheet b)) := by
  have hentries : worksheet (a ++ '\n' :: b) =
      worksheet a ++ (worksheet b).map (.shift (a.count '\n' + 1)) := by
    have hshift : Entry.ofLine ∘ NumberedLine.shift (a.count '\n' + 1)
        = Entry.shift (a.count '\n' + 1) ∘ Entry.ofLine := funext (Entry.ofLine_shift _)
    rw [worksheet, Text.filledLines_append_newline, List.map_append, List.map_map, hshift,
      ← List.map_map]
    rfl
  refine ⟨hentries, ?_⟩
  rw [hentries, Summary.ofEntries_append, Summary.ofEntries_map_shift]

end TruthTables
