import Mathlib.Algebra.GroupWithZero.Nat
import Mathlib.Data.List.Basic
import TruthTables.Proofs.Text.Margins

/-!
# Cells between bars

A line of a table is a row of cells with bars before, between and after them, and with one
character on either side of a cell that keeps it off the bars.  Where the bars are depends on
nothing but the widths of the cells.  So lines with cells of the same widths have their bars one
under the other, and whoever knows the places of the bars can cut the cells out of each line.

## Main definitions

* `Text.barLine fill cells` — the cells between bars, with `fill` on either side of each.
* `Text.barOffsets n widths` — the offsets of the bars, for cells of these widths and a first
  bar that has the offset `n`.
* `Text.between t offsets` — what stands in `t` between each two neighbouring offsets.

## Main results

* `Text.length_barLine` — how long such a line is.
* `Text.idxsOf_barLine` — **where its bars are.**
* `Text.between_barLine` — **cutting at these places gives the cells back.**
-/

namespace TruthTables

namespace Text

/-- Cells between bars, with a character on either side of each cell. -/
def barLine (fill : Char) : List Text → Text
  | [] => ['|']
  | c :: cs => '|' :: fill :: (c ++ fill :: barLine fill cs)

@[simp] theorem barLine_nil (fill : Char) : barLine fill [] = ['|'] := rfl

@[simp] theorem barLine_cons (fill : Char) (c : Text) (cs : List Text) :
    barLine fill (c :: cs) = '|' :: fill :: (c ++ fill :: barLine fill cs) := rfl

/-- The offsets of the bars of a line with cells of these widths, if the first bar has the
offset `n`. -/
def barOffsets (n : Nat) : List Nat → List Nat
  | [] => [n]
  | w :: ws => n :: barOffsets (n + (w + 3)) ws

@[simp] theorem barOffsets_nil (n : Nat) : barOffsets n [] = [n] := rfl

@[simp] theorem barOffsets_cons (n w : Nat) (ws : List Nat) :
    barOffsets n (w :: ws) = n :: barOffsets (n + (w + 3)) ws := rfl

/-- What stands in a text between each two offsets that follow one another. -/
def between (t : Text) : List Nat → List Text
  | [] => []
  | [_] => []
  | i :: j :: js => (t.take j).drop (i + 1) :: between t (j :: js)

/-- A line is framed by its first bar and its last one, and cells are separated by bars. -/
theorem barLine_eq_intercalate (fill : Char) : ∀ {cells : List Text}, cells ≠ [] →
    barLine fill cells =
      ['|', fill] ++ List.intercalate [fill, '|', fill] cells ++ [fill, '|'] := by
  intro cells hne
  induction cells with
  | nil => exact absurd rfl hne
  | cons c cs ih =>
    cases cs with
    | nil => simp
    | cons d ds =>
      rw [barLine_cons, ih (List.cons_ne_nil d ds), List.intercalate_cons_cons]
      simp

/-! ### The places of the bars -/

theorem length_barLine (fill : Char) (cells : List Text) :
    (barLine fill cells).length = 1 + (cells.map fun c => c.length + 3).sum := by
  induction cells with
  | nil => rfl
  | cons c cs ih =>
    simp only [barLine_cons, List.length_cons, List.length_append, ih, List.map_cons, List.sum_cons]
    omega

section Bars

variable {fill : Char} {cells : List Text}

theorem notMem_barLine {d : Char} (hbar : d ≠ '|') (hfill : d ≠ fill) (h : ∀ c ∈ cells, d ∉ c) :
    d ∉ barLine fill cells := by
  induction cells with
  | nil => simpa using hbar
  | cons c cs ih =>
    obtain ⟨hc, hcs⟩ := List.forall_mem_cons.mp h
    simp only [barLine_cons, List.mem_cons, List.mem_append, not_or]
    exact ⟨hbar, hfill, hc, hfill, ih hcs⟩

/-- **The bars of a line** are where the widths of its cells put them, and there is no other. -/
theorem idxsOf_barLine (hfill : fill ≠ '|') (h : ∀ c ∈ cells, '|' ∉ c) (n : Nat) :
    (barLine fill cells).idxsOf '|' n = barOffsets n (cells.map List.length) := by
  induction cells generalizing n with
  | nil => rfl
  | cons c cs ih =>
    obtain ⟨hc, hcs⟩ := List.forall_mem_cons.mp h
    have hcell : c.idxsOf '|' (n + 1 + 1) = [] := by
      rw [List.idxsOf_eq_nil_iff]
      intro d hd
      exact beq_false_of_ne fun hbar => hc (hbar ▸ hd)
    have hnext : n + 1 + 1 + c.length + 1 = n + (c.length + 3) := by omega
    rw [barLine_cons, List.idxsOf_cons, if_pos (beq_self_eq_true '|'), List.idxsOf_cons,
      if_neg (by simpa using hfill), List.idxsOf_append, hcell, List.nil_append, List.idxsOf_cons,
      if_neg (by simpa using hfill), hnext, ih hcs, List.map_cons, barOffsets_cons]

end Bars

/-! ### The cells -/

theorem exists_barOffsets_eq_cons (n : Nat) (ws : List Nat) : ∃ ms, barOffsets n ws = n :: ms := by
  cases ws with
  | nil => exact ⟨[], rfl⟩
  | cons w ws => exact ⟨_, rfl⟩

/-- Cutting a line at its bars, when it comes after other text. -/
theorem between_append_barLine (fill : Char) (cells : List Text) (u : Text) :
    between (u ++ barLine fill cells) (barOffsets u.length (cells.map List.length)) =
      cells.map fun c => [fill] ++ c ++ [fill] := by
  induction cells generalizing u with
  | nil => rfl
  | cons c cs ih =>
    -- what comes before the second bar is other text to the cells after it
    let cell : Text := [fill] ++ c ++ [fill]
    have hline : u ++ barLine fill (c :: cs) = (u ++ '|' :: cell) ++ barLine fill cs := by
      simp [cell]
    have hlength : (u ++ '|' :: cell).length = u.length + (c.length + 3) := by
      simp [cell]
    have hcell : (((u ++ '|' :: cell) ++ barLine fill cs).take (u ++ '|' :: cell).length).drop
        (u.length + 1) = cell := by
      rw [List.take_left, List.drop_append, List.drop_of_length_le (by omega)]
      simp
    have hrest := ih (u ++ '|' :: cell)
    obtain ⟨ms, hms⟩ := exists_barOffsets_eq_cons (u ++ '|' :: cell).length (cs.map List.length)
    rw [List.map_cons, barOffsets_cons, ← hlength, hline, hms, between, hcell, ← hms, hrest,
      List.map_cons]

/-- **Cutting a line at its bars gives its cells back.** -/
theorem between_barLine (fill : Char) (cells : List Text) :
    between (barLine fill cells) (barOffsets 0 (cells.map List.length)) =
      cells.map fun c => [fill] ++ c ++ [fill] :=
  between_append_barLine fill cells []

end Text

end TruthTables
