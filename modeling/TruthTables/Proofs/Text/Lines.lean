import TruthTables.Text.Line
import TruthTables.Proofs.Text.Margins

/-!
# The lines of texts that are put together

Line feeds separate the lines of a text, and nothing else does.  So if two texts stand one
after the other with a line feed between them, the lines of both stay as they are, and those of
the second are counted on; and if they stand one directly after the other, then the last
line of the first and the first line of the second become one line.

Of a line only what is left when it is trimmed is looked at.  Therefore it makes no
difference whether a carriage return before a line feed counts as part of the line, nor
whether an empty line at the end counts as a line.

## Main definitions

* `NumberedLine.shift d l` — the line `l` with a number larger by `d`.
* `Text.lines t` — the lines of `t`, each without the line feed that ends it and without a
  carriage return before this.
* `Text.nonblankOf ls` — those of some lines that are not blank, trimmed, each with its number.
* `Text.nonblank t` — those of the lines of `t`.

## Main results

* `Text.exists_pieces_append` — **only line feeds end a line.**
* `Text.filledLines_append_newline` — **the lines on both sides of a line feed.**
* `Text.numbered_congr` — lines that are equal when trimmed are the same lines.
* `Text.numbered_lines` — how lines are ended makes no difference.
* `Text.filledLines_eq_nonblank` — the lines worth reading are those that are not blank.
-/

namespace TruthTables

/-- A line with a larger number. -/
def NumberedLine.shift (d : Nat) (l : NumberedLine) : NumberedLine := ⟨l.number + d, l.content⟩

namespace Text

/-! ### Pieces -/

theorem pieces_of_notMem {t : Text} (h : '\n' ∉ t) : pieces t = [t] := List.splitOn_eq_singleton h

theorem exists_pieces_eq_cons (t : Text) : ∃ p ps, pieces t = p :: ps :=
  List.exists_cons_of_ne_nil (List.splitOn_ne_nil '\n' t)

/-- There is one piece more than there are line feeds. -/
theorem length_pieces (t : Text) : (pieces t).length = t.count '\n' + 1 := by
  induction t with
  | nil => rfl
  | cons c t ih =>
    unfold pieces at ih ⊢
    rw [List.splitOn_cons_eq_if_modifyHead, List.count_cons]
    split
    · rw [List.length_cons, ih]
    · rw [List.length_modifyHead, ih, Nat.add_zero]

/-- Texts can be gone through line by line. -/
theorem induction_on_lines {motive : Text → Prop} (last : ∀ t, '\n' ∉ t → motive t)
    (line : ∀ p t, '\n' ∉ p → motive t → motive (p ++ '\n' :: t)) (t : Text) : motive t := by
  induction hn : t.length using Nat.strongRecOn generalizing t with
  | ind n ih =>
    by_cases h : '\n' ∈ t
    · obtain ⟨p, u, rfl, hp⟩ := List.eq_append_cons_of_mem h
      rw [List.length_append, List.length_cons] at hn
      exact line p u hp (ih u.length (by omega) u rfl)
    · exact last t h

/-- No piece has a line feed in it. -/
theorem notMem_of_mem_pieces (t : Text) : ∀ p ∈ pieces t, '\n' ∉ p := by
  induction t using induction_on_lines with
  | last t ht =>
    rw [pieces_of_notMem ht]
    simpa using ht
  | line p t hp ih =>
    rw [pieces_append_newline, pieces_of_notMem hp]
    simpa using ⟨hp, ih⟩

theorem pieces_append_of_notMem {p : Text} (hp : '\n' ∉ p) {t q : Text} {qs : List Text}
    (ht : pieces t = q :: qs) : pieces (p ++ t) = (p ++ q) :: qs := by
  induction p with
  | nil => exact ht
  | cons c p ih =>
    obtain ⟨hc, hp⟩ := List.ne_and_not_mem_of_not_mem_cons hp
    have htail := ih hp
    unfold pieces at htail ⊢
    rw [List.cons_append, List.splitOn_cons_eq_if_modifyHead, if_neg (by simpa using hc.symm),
      htail]
    rfl

/-- **Only line feeds end a line.**  Where two texts meet, the last piece of the first and the
first piece of the second make one piece, and all others stay as they are. -/
theorem exists_pieces_append (a b : Text) :
    ∃ ps p q qs, pieces a = ps ++ [p] ∧ pieces b = q :: qs ∧
      pieces (a ++ b) = ps ++ (p ++ q) :: qs := by
  obtain ⟨q, qs, hb⟩ := exists_pieces_eq_cons b
  induction a using induction_on_lines with
  | last a ha => exact ⟨[], a, q, qs, pieces_of_notMem ha, hb, pieces_append_of_notMem ha hb⟩
  | line r a hr ih =>
    obtain ⟨ps, p, q, qs, ha, hb, hab⟩ := ih
    refine ⟨r :: ps, p, q, qs, ?_, hb, ?_⟩
    · rw [pieces_append_newline, pieces_of_notMem hr, ha]
      rfl
    · rw [List.append_assoc, List.cons_append, pieces_append_newline, pieces_of_notMem hr, hab]
      rfl

/-! ### Numbers -/

theorem numbered_add (n d : Nat) (ps : List Text) :
    numbered (n + d) ps = (numbered n ps).map (.shift d) := by
  induction ps generalizing n with
  | nil => rfl
  | cons p ps ih =>
    have h : n + d + 1 = n + 1 + d := by omega
    rw [numbered, numbered, h, ih]
    cases p.trim <;> rfl

/-- **The lines on both sides of a line feed**: those after it are counted on. -/
theorem filledLines_append_newline (a b : Text) :
    filledLines (a ++ '\n' :: b) =
      filledLines a ++ (filledLines b).map (.shift (a.count '\n' + 1)) := by
  rw [filledLines, pieces_append_newline, numbered_append, length_pieces, numbered_add, filledLines,
    filledLines]

/-- **Lines that are equal when trimmed are the same lines.** -/
theorem numbered_congr {ps qs : List Text} (h : ps.map trim = qs.map trim) (n : Nat) :
    numbered n ps = numbered n qs := by
  induction ps generalizing n qs with
  | nil =>
    cases qs with
    | nil => rfl
    | cons q qs => cases h
  | cons p ps ih =>
    cases qs with
    | nil => cases h
    | cons q qs =>
      obtain ⟨hp, hps⟩ := List.cons_eq_cons.mp h
      rw [numbered, numbered, hp, ih hps]

/-! ### The ends of lines -/

/-- A text without the carriage return at its end, if there is one. -/
def dropReturn (t : Text) : Text := if t.getLast? = some '\r' then t.dropLast else t

/-- The lines that some pieces are between line feeds.  A carriage return before a line feed
belongs to the end of the line, and the last piece is a line if there is something in it. -/
def linesOf : List Text → List Text
  | [] => []
  | [p] => if p = [] then [] else [p]
  | p :: q :: ps => dropReturn p :: linesOf (q :: ps)

/-- The lines of a text, without what ends them. -/
def lines (t : Text) : List Text := linesOf (pieces t)

/-- A carriage return at the end is trimmed off. -/
theorem trim_concat_return (t : Text) : trim (t ++ ['\r']) = trim t :=
  trim_append_of_blank (List.forall_mem_singleton.mpr rfl) t

theorem trim_dropReturn (t : Text) : trim (dropReturn t) = trim t := by
  unfold dropReturn
  split
  · next h =>
    obtain ⟨u, rfl⟩ := List.getLast?_eq_some_iff.mp h
    rw [List.dropLast_concat, trim_concat_return]
  · rfl

/-- **How lines are ended makes no difference** to what the lines that are not blank are. -/
theorem numbered_lines (n : Nat) (t : Text) : numbered n t.lines = numbered n t.pieces := by
  have hall : ∀ (ps : List Text) (n : Nat), numbered n (linesOf ps) = numbered n ps := by
    intro ps
    induction ps with
    | nil => intro n; rfl
    | cons p ps ih =>
      intro n
      cases ps with
      | nil => by_cases hp : p = [] <;> simp [linesOf, hp, numbered]
      | cons q qs =>
        rw [linesOf, numbered, numbered, trim_dropReturn, ih]
  exact hall t.pieces n

/-! ### Lines that are not blank -/

/-- The lines that are not blank, trimmed, each with its number among all lines, from 1. -/
def nonblankOf (ls : List Text) : List (Text × Nat) :=
  ((ls.map trim).zipIdx 1).filter fun x => x.1 ≠ []

/-- The lines of a text that are not blank, trimmed, each with its number among all lines,
from 1. -/
def nonblank (t : Text) : List (Text × Nat) := nonblankOf t.lines

theorem numbered_eq_filter_zipIdx (n : Nat) (ps : List Text) :
    numbered n ps =
      (((ps.map trim).zipIdx n).filter fun x => x.1 ≠ []).map fun x => ⟨x.2, x.1⟩ := by
  induction ps generalizing n with
  | nil => rfl
  | cons p ps ih =>
    rw [numbered, List.map_cons, List.zipIdx_cons]
    cases hp : p.trim with
    | nil => exact ih (n + 1)
    | cons c t =>
      rw [List.filter_cons_of_pos (by simp), List.map_cons, ← ih]

/-- No line worth reading has a line feed in it. -/
theorem notMem_of_mem_filledLines {t : Text} {l : NumberedLine} (h : l ∈ t.filledLines) :
    '\n' ∉ l.content := by
  rw [filledLines, numbered_eq_filter_zipIdx] at h
  obtain ⟨x, hx, rfl⟩ := List.mem_map.mp h
  obtain ⟨p, hp, hpx⟩ := List.mem_map.mp (List.fst_mem_of_mem_zipIdx (List.mem_filter.mp hx).1)
  intro hmem
  exact notMem_of_mem_pieces t p hp (mem_of_mem_trim (hpx ▸ hmem))

/-- The lines worth reading are those that are not blank. -/
theorem filledLines_eq_nonblank (t : Text) :
    t.filledLines = t.nonblank.map fun x => ⟨x.2, x.1⟩ := by
  rw [filledLines, ← numbered_lines, numbered_eq_filter_zipIdx, nonblank, nonblankOf]

theorem notMem_of_mem_nonblank {t : Text} {x : Text × Nat} (h : x ∈ t.nonblank) : '\n' ∉ x.1 := by
  have hline : (⟨x.2, x.1⟩ : NumberedLine) ∈ t.filledLines := by
    rw [filledLines_eq_nonblank]
    exact List.mem_map_of_mem h
  exact notMem_of_mem_filledLines hline

end Text

end TruthTables
