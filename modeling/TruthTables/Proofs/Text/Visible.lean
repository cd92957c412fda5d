import TruthTables.Text.Blank

/-!
# What is left without white space

White space separates the characters of a text and says nothing itself.  What a text
says is in the others, and each of these has two kinds of place: its offset in the
text, which counts white space, and its number among them, which does not.  Texts
that differ in white space only have the same characters under the same numbers, and
only the offsets tell them apart.

## Main definitions

* `Text.visible t` — the text `t` without its white space.
* `Text.marks t` — the characters of `t` that are no white space, with their offsets.
* `Text.place t k` — the offset of the character with the number `k` in `t`.
* `SamePlace s t n m` — the offset `n` of `s` and the offset `m` of `t` are those of a
  character with the same number.

## Main results

* `Text.visible_trim` — trimming drops nothing but white space.
* `Text.marks_map` — exchanging characters keeps all offsets.
* `Text.marks_eq_map_place` — white space changes nothing but offsets.
* `samePlace_place` — **the places of two texts correspond.**
-/

namespace TruthTables

namespace Text

/-- A text without its white space. -/
def visible (t : Text) : Text := t.filter fun c => !isBlank c

/-- The characters of a text that are no white space, in order and each with its
offset. -/
def marks (t : Text) : List (Char × Nat) := t.zipIdx.filter fun x => !isBlank x.1

/-- The offset of the character with the number `k` among those that are no white space,
if there are so many. -/
def place (t : Text) (k : Nat) : Nat := (t.marks.map Prod.snd).getD k 0

/-! ### Trimming -/

theorem visible_trimStart (t : Text) : visible (trimStart t) = visible t := by
  induction t with
  | nil => rfl
  | cons c t ih =>
    rw [trimStart_cons]
    split
    · next h => rw [ih, visible, visible, List.filter_cons_of_neg (by simp [h])]
    · rfl

theorem visible_reverse (t : Text) : visible t.reverse = (visible t).reverse :=
  List.filter_reverse ..

/-- **Trimming drops nothing but white space.** -/
theorem visible_trim (t : Text) : visible (trim t) = visible t := by
  rw [trim, trimEnd, visible_reverse]
  have hback := visible_trimStart (trimStart t).reverse
  rw [trimStart] at hback
  rw [hback, visible_reverse, List.reverse_reverse, visible_trimStart]

/-- Where there is no white space, nothing is trimmed. -/
theorem trim_visible (t : Text) : trim (visible t) = visible t := by
  have hdrop : ∀ u : Text, (∀ c ∈ u, isBlank c = false) → u.dropWhile isBlank = u := by
    intro u hu
    cases u with
    | nil => rfl
    | cons c u => rw [List.dropWhile_cons, hu c List.mem_cons_self]; rfl
  have hvisible : ∀ c ∈ visible t, isBlank c = false := by
    intro c hc
    simpa using (List.mem_filter.mp hc).2
  rw [trim, trimStart, hdrop _ hvisible, trimEnd,
    hdrop _ fun c hc => hvisible c (List.mem_reverse.mp hc), List.reverse_reverse]

theorem trim_map {ρ : Char → Char} (hρ : ∀ c, isBlank (ρ c) = isBlank c) (t : Text) :
    trim (t.map ρ) = (trim t).map ρ := by
  have hblank : isBlank ∘ ρ = isBlank := funext hρ
  rw [trim, trimEnd, trimStart, List.dropWhile_map, hblank, ← List.map_reverse,
    List.dropWhile_map, hblank, ← List.map_reverse]
  rfl

/-! ### Characters and their offsets -/

/-- Where no character is wanted, none is found at any offset. -/
theorem filter_zipIdx_eq_nil {p : Char → Bool} {t : Text} (h : ∀ c ∈ t, p c = false) (n : Nat) :
    ((t.zipIdx n).filter fun x => p x.1) = [] := by
  rw [List.filter_eq_nil_iff]
  intro x hx
  rw [h x.1 (List.fst_mem_of_mem_zipIdx hx)]
  exact Bool.false_ne_true

theorem map_fst_marks (t : Text) : t.marks.map Prod.fst = t.visible := by
  have hall : (t.zipIdx.map Prod.fst).filter (fun c => !isBlank c) = t.visible := by
    rw [List.zipIdx_map_fst]
    rfl
  rw [← hall, List.filter_map]
  rfl

/-- Without white space the offset of a character is its number. -/
theorem marks_visible (t : Text) : t.visible.marks = t.visible.zipIdx := by
  rw [marks, List.filter_eq_self]
  intro x hx
  exact (List.mem_filter.mp (List.fst_mem_of_mem_zipIdx hx)).2

theorem marks_map {ρ : Char → Char} (hρ : ∀ c, isBlank (ρ c) = isBlank c) (t : Text) :
    marks (t.map ρ) = t.marks.map (Prod.map ρ id) := by
  have hblank : (fun x : Char × Nat => !isBlank x.1) ∘ Prod.map ρ id
      = fun x => !isBlank x.1 := by
    funext x
    simp [hρ]
  rw [marks, List.zipIdx_map, List.filter_map, hblank]
  rfl

/-- The character with a number stands at the place with this number. -/
theorem getElem?_marks_eq_some {t : Text} {k : Nat} {c : Char} (h : t.visible[k]? = some c) :
    t.marks[k]? = some (c, t.place k) := by
  rw [← map_fst_marks, List.getElem?_map] at h
  obtain ⟨x, hx, rfl⟩ := Option.map_eq_some_iff.mp h
  rw [place, List.getD_eq_getElem?_getD, List.getElem?_map, hx]
  rfl

/-- **The offsets of a text are put onto the text without its white space.** -/
theorem marks_eq_map_place (t : Text) : t.marks = t.visible.marks.map (Prod.map id t.place) := by
  rw [marks_visible]
  refine List.ext_getElem? fun k => ?_
  rw [List.getElem?_map, List.getElem?_zipIdx]
  cases hc : t.visible[k]? with
  | none =>
    have hlength : t.marks.length = t.visible.length := by rw [← map_fst_marks, List.length_map]
    rw [Option.map_none, Option.map_none, List.getElem?_eq_none_iff, hlength]
    exact List.getElem?_eq_none_iff.mp hc
  | some c =>
    rw [getElem?_marks_eq_some hc, Nat.zero_add]
    rfl

end Text

/-- The offset `n` of the text `s` and the offset `m` of the text `t` are those of the
same character: the one with some number among those that are no white space. -/
def SamePlace (s t : Text) (n m : Nat) : Prop :=
  ∃ (k : Nat) (c : Char), s.marks[k]? = some (c, n) ∧ t.marks[k]? = some (c, m)

/-- **The places of two texts correspond** if these differ in white space only. -/
theorem samePlace_place {s t : Text} (h : s.visible = t.visible) {k : Nat}
    (hk : k < s.visible.length) : SamePlace s t (s.place k) (t.place k) := by
  have hs : s.visible[k]? = some s.visible[k] := List.getElem?_eq_getElem hk
  have ht : t.visible[k]? = some s.visible[k] := h ▸ hs
  exact ⟨k, s.visible[k], Text.getElem?_marks_eq_some hs, Text.getElem?_marks_eq_some ht⟩

end TruthTables
