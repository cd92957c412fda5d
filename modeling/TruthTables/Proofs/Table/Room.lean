import TruthTables.Table.Build
import TruthTables.Table.Render

/-!
# Printing where there is not enough room

A table is written in many pieces, and each of them may be the one that does not fit any more.
Of that piece as many bytes are kept as there is room for, and no piece after it is written, so
what is kept is the beginning of the whole.  A cut respects nothing: it may fall between two
bytes of one character, or into the middle of a control sequence.

The proofs follow the pieces.  A piece that fits leaves less room for those after it
(`writeWithin_cons_of_le`); the first that does not fit ends the writing
(`writeWithin_cons_of_lt`), and until then all pieces have been written in full
(`exists_misfit`).

## Main definitions

* `Table.KeepsBeginning t s room` — printing `t` in the style `s` where there is room for `room`
  bytes keeps the beginning of what is printed.

## Main results

* `writeWithin_append_of_le` — pieces that fit are written in full.
* `exists_misfit` — **the first piece that does not fit ends the writing.**
* `Table.renderWithin_keepsBeginning` — **limited room keeps the beginning of a printed table.**
-/

namespace TruthTables

/-! ### Pieces -/

theorem writeWithin_cons_of_le {room : Nat} {p : Text} (h : p.byteCount ≤ room)
    (ps : List Text) :
    writeWithin room (p :: ps) = ⟨p.utf8 ++ (writeWithin (room - p.byteCount) ps).bytes,
      (writeWithin (room - p.byteCount) ps).failure⟩ :=
  if_pos h

theorem writeWithin_cons_of_lt {room : Nat} {p : Text} (h : room < p.byteCount)
    (ps : List Text) : writeWithin room (p :: ps) = ⟨p.utf8.take room, some .writeZero⟩ :=
  if_neg (Nat.not_le.mpr h)

@[simp] theorem Text.byteCount_nil : byteCount [] = 0 := rfl

theorem Text.byteCount_append (t u : Text) :
    (t ++ u).byteCount = t.byteCount + u.byteCount := by
  rw [byteCount, utf8_append, List.length_append]
  rfl

/-- **Pieces that fit are written in full**, and leave less room for those after them. -/
theorem writeWithin_append_of_le : ∀ (ps : List Text) {room : Nat},
    Text.byteCount ps.flatten ≤ room → ∀ qs : List Text,
      writeWithin room (ps ++ qs) =
        ⟨Text.utf8 ps.flatten ++ (writeWithin (room - Text.byteCount ps.flatten) qs).bytes,
          (writeWithin (room - Text.byteCount ps.flatten) qs).failure⟩ := by
  intro ps
  induction ps with
  | nil => intro room _ qs; rfl
  | cons p ps ih =>
    intro room h qs
    rw [List.flatten_cons, Text.byteCount_append] at h
    rw [List.cons_append, writeWithin_cons_of_le (by omega), ih (by omega) qs, List.flatten_cons,
      Text.byteCount_append, Text.utf8_append, List.append_assoc, Nat.sub_sub]

/-- Where not all pieces fit, there is a first that does not. -/
theorem exists_first_misfit : ∀ (ps : List Text) (room : Nat), room < Text.byteCount ps.flatten →
    ∃ before p after, ps = before ++ p :: after ∧ Text.byteCount before.flatten ≤ room ∧
      room < Text.byteCount before.flatten + p.byteCount := by
  intro ps
  induction ps with
  | nil =>
    intro room h
    exact absurd h (Nat.not_lt_zero room)
  | cons p ps ih =>
    intro room h
    by_cases hp : p.byteCount ≤ room
    · -- the piece fits, so it is one of those after it
      rw [List.flatten_cons, Text.byteCount_append] at h
      obtain ⟨before, q, after, rfl, hfit, hover⟩ := ih (room - p.byteCount) (by omega)
      refine ⟨p :: before, q, after, rfl, ?_, ?_⟩
      · rw [List.flatten_cons, Text.byteCount_append]
        omega
      · rw [List.flatten_cons, Text.byteCount_append]
        omega
    · exact ⟨[], p, ps, rfl, Nat.zero_le room, by
        rw [List.flatten_nil, Text.byteCount_nil]
        omega⟩

/-- **The first piece that does not fit ends the writing**: the pieces before it have been written
in full, of it itself as much as there was room for, and what comes after it makes no
difference. -/
theorem exists_misfit {ps : List Text} {room : Nat} (h : room < Text.byteCount ps.flatten) :
    ∃ before p after, ps = before ++ p :: after ∧
      writeWithin room before = ⟨Text.utf8 before.flatten, none⟩ ∧
      room < Text.byteCount before.flatten + p.byteCount ∧
      ∀ after', writeWithin room (before ++ p :: after') =
        ⟨Text.utf8 before.flatten ++ p.utf8.take (room - Text.byteCount before.flatten),
          some .writeZero⟩ := by
  obtain ⟨before, p, after, rfl, hfit, hover⟩ := exists_first_misfit ps room h
  refine ⟨before, p, after, rfl, ?_, hover, fun after' => ?_⟩
  · have hwritten := writeWithin_append_of_le before hfit []
    rw [List.append_nil, writeWithin_nil, List.append_nil] at hwritten
    exact hwritten
  · rw [writeWithin_append_of_le before hfit, writeWithin_cons_of_lt (by omega)]

/-! ### Tables -/

namespace Table

/-- Printing the table `t` in the style `s` where there is room for `room` bytes keeps the
beginning of what is printed. -/
structure KeepsBeginning (t : Table) (s : Style) (room : Nat) : Prop where
  /-- The first bytes are kept, as many as there are and as there is room for. -/
  bytes_eq : (t.renderWithin room s).bytes =
    (Text.utf8 (t.render s)).take (min room (t.render s).byteCount)
  /-- Printing fails exactly if there are more, and then for want of room. -/
  fails_iff : (t.renderWithin room s).failure = some .writeZero ↔ room < (t.render s).byteCount
  /-- If it fails, it does so at the first piece that does not fit.  The pieces before it have been
  written in full, and the same is kept whatever pieces come after it. -/
  stops : (t.renderWithin room s).failure ≠ none →
    ∃ before p after, t.pieces s = before ++ p :: after ∧
      writeWithin room before = ⟨Text.utf8 before.flatten, none⟩ ∧
      room < Text.byteCount before.flatten + p.byteCount ∧
      ∀ after', writeWithin room (before ++ p :: after') = t.renderWithin room s
  /-- Room for all of them is enough. -/
  enough : (t.render s).byteCount ≤ room →
    t.renderWithin room s = ⟨Text.utf8 (t.render s), none⟩
  /-- If the room ends in a part `v` of what is printed, be it a character or a control sequence,
  the bytes of `v` that there is room for are kept. -/
  cut : ∀ u v w, t.render s = u ++ v ++ w → u.byteCount ≤ room →
    room ≤ u.byteCount + v.byteCount →
      (t.renderWithin room s).bytes = u.utf8 ++ v.utf8.take (room - u.byteCount)
  /-- With more room, what is kept goes on. -/
  more : ∀ room', room ≤ room' →
    (t.renderWithin room s).bytes <+: (t.renderWithin room' s).bytes

section Room

variable (t : Table) (s : Style) (room : Nat)

/-- What is kept does not depend on the pieces. -/
theorem renderWithin_eq : t.renderWithin room s =
    ⟨(Text.utf8 (t.render s)).take room,
      if (t.render s).byteCount ≤ room then none else some .writeZero⟩ :=
  writeWithin_eq room (t.pieces s)

theorem failure_renderWithin_ne_none_iff :
    (t.renderWithin room s).failure ≠ none ↔ room < (t.render s).byteCount := by
  rw [renderWithin_eq, ← Nat.not_le]
  split <;> simp [*]

/-- **Limited room keeps the beginning of a printed table.** -/
theorem renderWithin_keepsBeginning : t.KeepsBeginning s room where
  bytes_eq := by
    rw [renderWithin_eq, Text.byteCount]
    exact List.take_eq_take_min
  fails_iff := by
    rw [← failure_renderWithin_ne_none_iff, Option.ne_none_iff_exists']
    exact ⟨fun h => ⟨_, h⟩, fun ⟨.writeZero, h⟩ => h⟩
  stops := by
    intro h
    obtain ⟨before, p, after, hpieces, hwritten, hover, hstop⟩ :=
      exists_misfit ((failure_renderWithin_ne_none_iff t s room).mp h)
    refine ⟨before, p, after, hpieces, hwritten, hover, fun after' => ?_⟩
    rw [hstop after', renderWithin, hpieces, hstop after]
  enough := by
    intro h
    rw [renderWithin_eq, List.take_of_length_le h, if_pos h]
  cut := by
    intro u v w hprinted hu hv
    have hrest : room - u.byteCount - v.byteCount = 0 := by omega
    rw [renderWithin_eq, hprinted, Text.utf8_append, Text.utf8_append, List.append_assoc,
      List.take_append, List.take_of_length_le hu, List.take_append]
    change u.utf8 ++ (v.utf8.take (room - u.byteCount) ++
      w.utf8.take (room - u.byteCount - v.byteCount)) = _
    rw [hrest, List.take_zero, List.append_nil]
  more := by
    intro room' h
    rw [renderWithin_eq, renderWithin_eq]
    exact List.take_prefix_take_left h

end Room

end Table

/-- The room ends within the sign of conjunction in the title, and within the control sequence in
front of a colored one. -/
example :
    let kept (room : Nat) (s : Style) : Option Written :=
      (buildTable "A∧B".toList).toOption.map fun t => t.renderWithin room s
    kept 2 ⟨false, true⟩ = some ⟨[0x41, 0xE2], some .writeZero⟩ ∧
      kept 4 ⟨true, true⟩ = some ⟨[0x1B, 0x5B, 0x33, 0x38], some .writeZero⟩ := by
  decide +kernel

end TruthTables
