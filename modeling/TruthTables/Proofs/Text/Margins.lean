import Mathlib.Data.List.TakeWhile
import TruthTables.Proofs.Text.Visible

/-!
# Margins

What trimming takes off a text is white space before its first character that is no white
space, and white space after its last.  Between these margins the text stays as it is, so a
character of the trimmed text has its old offset less the length of the margin on the left.
The other way round, white space that is put before a text or after it only widens a margin,
and trimming takes it off again.

## Main definitions

* `Text.margin t` — the number of characters that are trimmed off at the start of `t`.

## Main results

* `Text.trim_widened` — **wider margins are trimmed off as well.**
* `Text.exists_eq_margins` — a text is what is left when it is trimmed, between its margins.
* `Text.marks_eq_map_margin` — **trimming moves every character by the margin.**
-/

namespace TruthTables

namespace Text

/-- The number of characters of white space at the start of a text. -/
def margin (t : Text) : Nat := (t.takeWhile isBlank).length

/-! ### Wider margins -/

section Blank

variable {u w : Text} (hu : ∀ c ∈ u, isBlank c = true) (hw : ∀ c ∈ w, isBlank c = true)

include hu in
theorem trimStart_append_of_blank (t : Text) : trimStart (u ++ t) = trimStart t :=
  List.dropWhile_append_of_pos hu

include hw in
theorem trimEnd_append_of_blank (t : Text) : trimEnd (t ++ w) = trimEnd t := by
  have hreverse : ∀ c ∈ w.reverse, isBlank c = true := fun c hc => hw c (List.mem_reverse.mp hc)
  rw [trimEnd, List.reverse_append, List.dropWhile_append_of_pos hreverse, trimEnd]

include hw in
theorem trim_append_of_blank (t : Text) : trim (t ++ w) = trim t := by
  cases hstart : trimStart t with
  | nil =>
    -- nothing but white space
    have ht : ∀ c ∈ t, isBlank c = true := List.dropWhile_eq_nil_iff.mp hstart
    have hwstart : trimStart w = [] := List.dropWhile_eq_nil_iff.mpr hw
    rw [trim, trimStart_append_of_blank ht, hwstart, trim, hstart]
  | cons c s =>
    have hne : t.dropWhile isBlank ≠ [] := fun h => List.cons_ne_nil c s (hstart.symm.trans h)
    have happend : trimStart (t ++ w) = trimStart t ++ w := by
      rw [trimStart, List.dropWhile_append, if_neg (by simpa using hne)]
      rfl
    rw [trim, happend, trimEnd_append_of_blank hw, trim]

include hu hw in
/-- **Wider margins are trimmed off as well.** -/
theorem trim_widened (t : Text) : trim (u ++ t ++ w) = trim t := by
  rw [trim_append_of_blank hw, trim, trimStart_append_of_blank hu, trim]

end Blank

/-! ### The margins of a text -/

/-- A text is what is left when it is trimmed, between two margins of white space. -/
theorem exists_eq_margins (t : Text) :
    ∃ u w, t = u ++ t.trim ++ w ∧ u.length = t.margin ∧ (∀ c ∈ u, isBlank c = true) ∧
      ∀ c ∈ w, isBlank c = true := by
  let u := t.takeWhile isBlank
  let w := (t.trimStart.reverse.takeWhile isBlank).reverse
  have hstart : t = u ++ t.trimStart := List.takeWhile_append_dropWhile.symm
  have hend : t.trimStart = t.trim ++ w := by
    have hreverse := congrArg List.reverse
      (List.takeWhile_append_dropWhile (p := isBlank) (l := t.trimStart.reverse))
    rw [List.reverse_append, List.reverse_reverse] at hreverse
    exact hreverse.symm
  refine ⟨u, w, ?_, rfl, fun c hc => ?_, fun c hc => ?_⟩
  · rw [List.append_assoc, ← hend, ← hstart]
  · exact List.all_eq_true.mp List.all_takeWhile c hc
  · exact List.all_eq_true.mp List.all_takeWhile c (List.mem_reverse.mp hc)

/-- Nothing is in a trimmed text that was not there before. -/
theorem mem_of_mem_trim {t : Text} {c : Char} (h : c ∈ t.trim) : c ∈ t := by
  obtain ⟨u, w, ht, -⟩ := t.exists_eq_margins
  rw [ht]
  exact List.mem_append_left w (List.mem_append_right u h)

/-! ### The place of a character -/

/-- **Trimming moves every character by the margin**, and drops none that is no white space. -/
theorem marks_eq_map_margin (t : Text) :
    t.marks = t.trim.marks.map (Prod.map id (· + t.margin)) := by
  obtain ⟨u, w, ht, hlength, hu, hw⟩ := t.exists_eq_margins
  have hnone : ∀ v : Text, (∀ c ∈ v, isBlank c = true) → ∀ n,
      ((v.zipIdx n).filter fun x => !isBlank x.1) = [] := by
    intro v hv
    have hv' : ∀ c ∈ v, (fun c => !isBlank c) c = false := fun c hc => by simp [hv c hc]
    exact filter_zipIdx_eq_nil hv'
  have hmarks : (u ++ t.trim ++ w).marks = (t.trim.zipIdx u.length).filter fun x => !isBlank x.1 := by
    rw [marks, List.zipIdx_append, List.zipIdx_append, List.filter_append, List.filter_append,
      hnone u hu, hnone w hw, List.nil_append, List.append_nil, Nat.zero_add]
  have hmoved : t.trim.zipIdx u.length = t.trim.zipIdx.map (Prod.map id (· + t.margin)) := by
    rw [List.map_snd_add_zipIdx_eq_zipIdx, hlength, Nat.add_zero]
  rw [← ht, hmoved, List.filter_map] at hmarks
  exact hmarks

end Text

end TruthTables
