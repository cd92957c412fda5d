import TruthTables.Text.Basic

/-!
# Blocks of lines

A text that is made of blocks, each ended by an empty line, can be cut into them again: it is cut
after each line feed, and then the lines are cut after each that is empty.  Nothing of the text is
dropped by this, so a cut text put together is the text again.

That the blocks come out as they went in rests on two things.  No line feed stands inside a line,
or the line would be cut.  And no line of a block is empty but the last, or the block would be cut.

## Main definitions

* `cutAfter p l` — the list `l`, cut after each member with the property `p`.
* `Text.endedLines t` — the lines of `t`, each with the line feed that ends it.
* `Text.blocks t` — the text `t`, cut after each empty line.
* `Text.IsEndedLine t` — `t` is one line.
* `Text.IsBlock ls t` — `t` is a block with the lines `ls`.

## Main results

* `flatten_cutAfter` — cutting drops nothing.
* `cutAfter_flatten` — **parts that are put together come out again.**
* `Text.endedLines_flatten`, `Text.count_newline_flatten` — lines come out again, and can be
  counted.
* `Text.blocks_flatten` — **so do blocks of lines.**
-/

namespace TruthTables

/-! ### Cutting lists -/

section Cut

variable {α : Type} (p : α → Bool)

/-- A list, cut after each member with a property. -/
def cutAfter : List α → List (List α)
  | [] => []
  | x :: xs =>
    if p x then [x] :: cutAfter xs
    else
      match cutAfter xs with
      | [] => [[x]]
      | ys :: yss => (x :: ys) :: yss

@[simp] theorem cutAfter_nil : cutAfter p [] = [] := rfl

theorem cutAfter_cons (x : α) (xs : List α) :
    cutAfter p (x :: xs) =
      if p x then [x] :: cutAfter p xs
      else
        match cutAfter p xs with
        | [] => [[x]]
        | ys :: yss => (x :: ys) :: yss := rfl

/-- Cutting drops nothing. -/
theorem flatten_cutAfter (l : List α) : (cutAfter p l).flatten = l := by
  induction l with
  | nil => rfl
  | cons x xs ih =>
    rw [cutAfter_cons]
    split
    · rw [List.flatten_cons, ih]
      rfl
    · split
      · next hnil =>
        rw [hnil] at ih
        rw [← ih]
        rfl
      · next hcons =>
        rw [hcons] at ih
        rw [← ih]
        rfl

/-- The last member of a list has a property, and no other member does. -/
inductive EndsAt : List α → Prop
  /-- What comes before the last member does not have the property. -/
  | concat {xs : List α} {x : α} (hxs : ∀ y ∈ xs, p y = false) (hx : p x = true) :
    EndsAt (xs ++ [x])

variable {p}

/-- Up to the first member with the property nothing is cut. -/
theorem cutAfter_append {part : List α} (h : EndsAt p part) (l : List α) :
    cutAfter p (part ++ l) = part :: cutAfter p l := by
  obtain ⟨hxs, hx⟩ := h
  rename_i xs x
  induction xs with
  | nil => exact if_pos hx
  | cons y ys ih =>
    obtain ⟨hy, hys⟩ := List.forall_mem_cons.mp hxs
    rw [List.cons_append, List.cons_append, cutAfter_cons, ih hys, hy]
    rfl

/-- **Parts that are put together come out again** when the whole is cut. -/
theorem cutAfter_flatten {parts : List (List α)} (h : ∀ part ∈ parts, EndsAt p part) :
    cutAfter p parts.flatten = parts := by
  induction parts with
  | nil => rfl
  | cons part parts ih =>
    obtain ⟨hpart, hparts⟩ := List.forall_mem_cons.mp h
    rw [List.flatten_cons, cutAfter_append hpart, ih hparts]

end Cut

/-! ### Cutting texts -/

namespace Text

/-- The lines of a text, each with the line feed that ends it. -/
def endedLines (t : Text) : List Text := cutAfter (· = '\n') t

/-- A text, cut after each empty line. -/
def blocks (t : Text) : List Text := (cutAfter (· = ['\n']) t.endedLines).map List.flatten

/-- The text `t` is one line with the line feed that ends it. -/
def IsEndedLine (t : Text) : Prop := ∃ l, '\n' ∉ l ∧ t = l ++ ['\n']

/-- The text `t` is a block with the lines `ls`: none of them is empty, and an empty line comes
after them. -/
structure IsBlock (ls : List Text) (t : Text) : Prop where
  /-- The lines are ended by line feeds, and so is the empty line after them. -/
  eq : t = ls.flatMap (· ++ ['\n']) ++ ['\n']
  /-- No line is empty, and none falls into several. -/
  line : ∀ l ∈ ls, l ≠ [] ∧ '\n' ∉ l

theorem endsAt_line {l : Text} (h : '\n' ∉ l) : EndsAt (fun c => decide (c = '\n')) (l ++ ['\n']) :=
  .concat (fun _ hc => decide_eq_false fun heq => h (heq ▸ hc)) (decide_eq_true rfl)

/-- The lines of some texts, each text put together again. -/
theorem map_flatten_endedLines (ts : List Text) : (ts.map endedLines).map List.flatten = ts := by
  rw [List.map_map]
  exact (List.map_congr_left fun t _ => flatten_cutAfter _ t).trans (List.map_id _)

/-- Lines that are put together come out again. -/
theorem endedLines_flatten {ts : List Text} (h : ∀ t ∈ ts, IsEndedLine t) :
    endedLines ts.flatten = ts := by
  refine cutAfter_flatten fun t ht => ?_
  obtain ⟨l, hl, rfl⟩ := h t ht
  exact endsAt_line hl

/-- There are as many line feeds as lines. -/
theorem count_newline_flatten {ts : List Text} (h : ∀ t ∈ ts, IsEndedLine t) :
    ts.flatten.count '\n' = ts.length := by
  induction ts with
  | nil => rfl
  | cons t ts ih =>
    obtain ⟨⟨l, hl, rfl⟩, hts⟩ := List.forall_mem_cons.mp h
    rw [List.flatten_cons, List.count_append, List.count_append, List.count_eq_zero_of_not_mem hl,
      List.count_singleton_self, ih hts, List.length_cons, Nat.zero_add, Nat.add_comm]

namespace IsBlock

variable {ls : List Text} {t : Text} (h : IsBlock ls t)

include h

theorem flatten_eq : t = (ls.map (· ++ ['\n']) ++ [['\n']]).flatten := by
  rw [h.eq, List.flatten_append, List.flatMap_def]
  rfl

theorem isEndedLine_of_mem : ∀ u ∈ ls.map (· ++ ['\n']) ++ [['\n']], IsEndedLine u := by
  intro u hu
  rcases List.mem_append.mp hu with hu | hu
  · obtain ⟨l, hl, rfl⟩ := List.mem_map.mp hu
    exact ⟨l, (h.line l hl).2, rfl⟩
  · exact ⟨[], List.not_mem_nil, List.mem_singleton.mp hu⟩

theorem endedLines_eq : t.endedLines = ls.map (· ++ ['\n']) ++ [['\n']] := by
  rw [h.flatten_eq, endedLines_flatten h.isEndedLine_of_mem]

theorem endsAt : EndsAt (fun u => decide (u = ['\n'])) t.endedLines := by
  rw [h.endedLines_eq]
  refine .concat (fun u hu => decide_eq_false ?_) (decide_eq_true rfl)
  obtain ⟨l, hl, rfl⟩ := List.mem_map.mp hu
  intro heq
  exact (h.line l hl).1 (List.append_left_eq_self.mp heq)

/-- A block with one line more before it. -/
theorem cons {l : Text} (hne : l ≠ []) (hl : '\n' ∉ l) : IsBlock (l :: ls) (l ++ '\n' :: t) where
  eq := by
    rw [h.eq, List.flatMap_cons]
    simp
  line := List.forall_mem_cons.mpr ⟨⟨hne, hl⟩, h.line⟩

end IsBlock

/-- The lines of blocks that are put together are the lines of the blocks. -/
theorem endedLines_flatten_of_blocks {ts : List Text} (h : ∀ t ∈ ts, ∃ ls, IsBlock ls t) :
    endedLines ts.flatten = (ts.map endedLines).flatten := by
  have hflatten : (ts.map endedLines).flatten.flatten = ts.flatten := by
    rw [List.flatten_flatten, map_flatten_endedLines]
  rw [← hflatten]
  refine endedLines_flatten fun u hu => ?_
  obtain ⟨us, hus, hu⟩ := List.mem_flatten.mp hu
  obtain ⟨t, ht, rfl⟩ := List.mem_map.mp hus
  obtain ⟨ls, hls⟩ := h t ht
  rw [hls.endedLines_eq] at hu
  exact hls.isEndedLine_of_mem u hu

/-- **Blocks that are put together come out again.** -/
theorem blocks_flatten {ts : List Text} (h : ∀ t ∈ ts, ∃ ls, IsBlock ls t) :
    blocks ts.flatten = ts := by
  have hparts : ∀ part ∈ ts.map endedLines, EndsAt (fun u => decide (u = ['\n'])) part := by
    intro part hpart
    obtain ⟨t, ht, rfl⟩ := List.mem_map.mp hpart
    obtain ⟨ls, hls⟩ := h t ht
    exact hls.endsAt
  rw [blocks, endedLines_flatten_of_blocks h, cutAfter_flatten hparts, map_flatten_endedLines]

end Text

end TruthTables
