import TruthTables.Table.Render
import TruthTables.Proofs.Table.Marks

/-!
# White space in a line

White space in a line has no say in whether the line has a table, nor in what the table
is, but for the line that is kept with it.  Where there is no table, it has no say in
what is wrong.  It only moves the place: an error blames a character that is no white
space, and the offset of this one is told as it is in the trimmed line.

So what a line comes to is what it comes to without white space, where the offset of a
character is its number, with each number told as the offset of the character that has
it.

## Main definitions

* `LineError.Displaced At e e'` — the errors `e` and `e'` differ in their offsets only, and
  these are related by `At`.
* `Table.Agrees t u` — the tables `t` and `u` differ in the line that is kept with them only.

## Main results

* `buildTable_eq_visible` — what a line comes to, told from the line without white space.
* `buildTable_of_visible_eq` — **white space never matters except in offsets.**
-/

namespace TruthTables

/-- Two errors of one kind, with the same character, symbol, counts and limits; and where
one has an offset, there the other has an offset that `At` relates to it. -/
inductive LineError.Displaced (At : Nat → Nat → Prop) : LineError → LineError → Prop
  /-- The same bad character. -/
  | lexical (c : Char) {n m : Nat} (h : At n m) : Displaced At (.lexical ⟨c, n⟩) (.lexical ⟨c, m⟩)
  /-- The same limit, exceeded by the same count. -/
  | limit (e : LimitError) : Displaced At (.limit e) (.limit e)
  /-- A variable is expected where a connective stands. -/
  | expected {n m : Nat} (h : At n m) :
    Displaced At (.grammar (.variableExpected (some n))) (.grammar (.variableExpected (some m)))
  /-- A variable is expected at the end of both lines. -/
  | ended : Displaced At (.grammar (.variableExpected none)) (.grammar (.variableExpected none))
  /-- The same symbol, where it cannot stand.  The offset of the token and the one that is told
  are both related. -/
  | unexpected (s : Symbol) {n m n' m' : Nat} (h : At n m) (h' : At n' m') :
    Displaced At (.grammar (.unexpected ⟨s, n⟩ n')) (.grammar (.unexpected ⟨s, m⟩ m'))
  /-- The same variable without a value. -/
  | unbound (e : Unbound) : Displaced At (.unbound e) (.unbound e)

/-- Two tables that are printed alike, but for the line above them. -/
structure Table.Agrees (t u : Table) : Prop where
  /-- The variables are the same. -/
  vars : u.vars = t.vars
  /-- The headers are the same. -/
  headers : u.headers = t.headers
  /-- The columns are the same. -/
  columns : u.columns = t.columns
  /-- The values are the same. -/
  rows : u.rows = t.rows
  /-- The columns are equally wide. -/
  widths : u.widths = t.widths

/-! ### One line -/

theorem marks_trim_eq_map_place (line : Text) :
    line.trim.marks = line.visible.trim.marks.map (Prod.map Renaming.refl line.trim.place) := by
  have hmarks := line.trim.marks_eq_map_place
  rw [Text.visible_trim] at hmarks
  rw [Text.trim_visible]
  exact hmarks

/-- **What a line comes to is told from the line without white space**, where the offset
of a character is its number. -/
theorem buildTable_eq_visible (line : Text) :
    buildTable line =
      ((buildTable line.visible).map fun table => { table with expression := line.trim }).mapError
        (.map id line.trim.place) := by
  have hmarks := marks_trim_eq_map_place line
  cases hvisible : buildTable line.visible with
  | error e => exact buildTable_error_of_marks hmarks hvisible
  | ok table =>
    obtain ⟨f, -, -, rfl, htable⟩ := buildTable_ok_of_marks hmarks hvisible
    rw [htable, Renaming.toFun_refl, Formula.rename_id]
    rfl

/-! ### Two lines -/

/-- An error that is told with other offsets in two ways. -/
theorem displaced_map {At : Nat → Nat → Prop} {φ ψ : Nat → Nat} {e : LineError}
    (h : ∀ n ∈ e.offsets, At (φ n) (ψ n)) : (e.map id φ).Displaced At (e.map id ψ) := by
  cases e with
  | lexical e => exact .lexical e.char (h e.offset List.mem_cons_self)
  | limit e => exact .limit e
  | grammar e =>
    cases e with
    | variableExpected offset =>
      cases offset with
      | none => exact .ended
      | some n => exact .expected (h n List.mem_cons_self)
    | unexpected t offset =>
      exact .unexpected (t.symbol.rename id) (h t.offset List.mem_cons_self)
        (h offset (List.mem_cons_of_mem _ List.mem_cons_self))
  | unbound e => exact .unbound ⟨e.name⟩

@[simp] theorem LineError.map_id (e : LineError) : e.map id id = e := by
  cases e with
  | lexical e => rfl
  | limit e => rfl
  | grammar e =>
    cases e with
    | variableExpected offset => cases offset <;> rfl
    | unexpected t offset =>
      obtain ⟨s, o⟩ := t
      cases s <;> rfl
  | unbound e => rfl

/-- **White space never matters except in offsets.**  Of two lines with the same characters
other than white space both have a table, and these agree, or both have the same error.
If this one has an offset, then the two offsets, each in its own trimmed line, are those
of the same character. -/
theorem buildTable_of_visible_eq {s t : Text} (h : s.visible = t.visible) :
    (∃ table table', buildTable s = .ok table ∧ buildTable t = .ok table' ∧
      table.Agrees table') ∨
    ∃ e e', buildTable s = .error e ∧ buildTable t = .error e' ∧
      e.Displaced (SamePlace s.trim t.trim) e' := by
  have hs := buildTable_eq_visible s
  have ht := buildTable_eq_visible t
  rw [← h] at ht
  cases hvisible : buildTable s.visible with
  | ok table =>
    rw [hvisible] at hs ht
    exact .inl ⟨_, _, hs, ht, rfl, rfl, rfl, rfl, rfl⟩
  | error e =>
    rw [hvisible] at hs ht
    refine .inr ⟨_, _, hs, ht, displaced_map fun k hk => ?_⟩
    have hnumber := offset_lt_of_buildTable_eq_error hvisible hk
    rw [Text.trim_visible, ← Text.visible_trim s] at hnumber
    have hsame : s.trim.visible = t.trim.visible := by
      rw [Text.visible_trim, Text.visible_trim, h]
    exact samePlace_place hsame hnumber

/-- A second sign of conjunction is blamed, where white space stands before it and where
none does. -/
theorem buildTable_of_visible_eq_of_misplaced_conjunction :
    let s : Text := "\tA∧∧B".toList
    let t : Text := " A ∧\u3000∧ B\n".toList
    s.visible = t.visible ∧
      ∃ e e', buildTable s = .error e ∧ buildTable t = .error e' ∧
        e.Displaced (SamePlace s.trim t.trim) e' ∧ e.offset? = some 2 ∧ e'.offset? = some 4 := by
  intro s t
  have h : s.visible = t.visible := by decide
  let ts : List Token := [⟨.atom 'A', 0⟩, ⟨.op .and, 1⟩, ⟨.op .and, 2⟩, ⟨.atom 'B', 3⟩]
  have hvisible : buildTable s.visible = .error (.grammar (.variableExpected (some 2))) := by
    have hscan : scan s.visible.trim = .ok ts := rfl
    have hcheck : checkLimits ts = .ok () := checkLimits_eq_ok_iff.mpr (by decide)
    have hread : parseTokens ts = .error (.variableExpected (some 2)) := by
      rw [parseTokens_eq_read]
      rfl
    exact buildTable_eq_of_outcome (.grammar hscan hcheck hread)
  have hs : buildTable s = .error (.grammar (.variableExpected (some 2))) := by
    rw [buildTable_eq_visible, hvisible]
    rfl
  have ht : buildTable t = .error (.grammar (.variableExpected (some 4))) := by
    rw [buildTable_eq_visible, ← h, hvisible]
    rfl
  rcases buildTable_of_visible_eq h with ⟨table, table', htable, -⟩ | ⟨e, e', he, he', hdisplaced⟩
  · rw [hs] at htable
    cases htable
  · obtain rfl := Except.error.inj (hs.symm.trans he)
    obtain rfl := Except.error.inj (ht.symm.trans he')
    exact ⟨h, _, _, hs, ht, hdisplaced, rfl, rfl⟩

end TruthTables
