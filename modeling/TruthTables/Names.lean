import TruthTables.Text.Basic

/-!
# Sets of names

A variable is named by one character.  A set of names is kept as the list of its
members in ascending order of code point, so two sets with the same members are
the same list, and the place of a name in the list is the number of smaller
names.

## Main definitions

* `Names` — a set of names, in ascending order.
* `Names.insert`, `Names.ofList` — adding one name, collecting all names of a list.
* `Names.size` — the number of names.
-/

namespace TruthTables

/-- A set of names: its members in ascending order of code point. -/
@[ext] structure Names where
  /-- The members, smallest first. -/
  toList : List Char
  /-- No member comes twice, and the order is that of code points. -/
  ascending : toList.Pairwise (· < ·)
  deriving DecidableEq

namespace Names

instance : Membership Char Names where
  mem s c := c ∈ s.toList

theorem mem_def {s : Names} {c : Char} : c ∈ s ↔ c ∈ s.toList := Iff.rfl

instance (c : Char) (s : Names) : Decidable (c ∈ s) := inferInstanceAs (Decidable (c ∈ s.toList))

/-- The set without members. -/
def empty : Names := ⟨[], .nil⟩

@[simp] theorem toList_empty : empty.toList = [] := rfl

/-- Puts a name into an ascending list, where it belongs; a name that is there
stays as it is. -/
def insertSorted (c : Char) : List Char → List Char
  | [] => [c]
  | d :: ds => if c < d then c :: d :: ds else if c = d then d :: ds else d :: insertSorted c ds

@[simp] theorem insertSorted_nil (c : Char) : insertSorted c [] = [c] := rfl

@[simp] theorem mem_insertSorted {c x : Char} {ds : List Char} :
    x ∈ insertSorted c ds ↔ x = c ∨ x ∈ ds := by
  induction ds with
  | nil => simp
  | cons d ds ih =>
    rw [insertSorted]
    split
    · simp
    · split
      · next h => simp [h]
      · simp only [List.mem_cons, ih]
        exact or_left_comm

theorem pairwise_insertSorted {c : Char} {ds : List Char} (h : ds.Pairwise (· < ·)) :
    (insertSorted c ds).Pairwise (· < ·) := by
  induction ds with
  | nil => simp
  | cons d ds ih =>
    obtain ⟨hd, hds⟩ := List.pairwise_cons.mp h
    rw [insertSorted]
    split
    · next hlt =>
      exact List.pairwise_cons.mpr ⟨fun x hx => by
        rcases List.mem_cons.mp hx with rfl | hx
        · exact hlt
        · exact Char.lt_trans hlt (hd x hx), h⟩
    · next hlt =>
      split
      · exact h
      · next hne =>
        refine List.pairwise_cons.mpr ⟨fun x hx => ?_, ih hds⟩
        rcases mem_insertSorted.mp hx with rfl | hx
        · exact Std.lt_of_le_of_ne (Char.not_lt.mp hlt) (Ne.symm hne)
        · exact hd x hx

/-- The set with one name more. -/
def insert (c : Char) (s : Names) : Names :=
  ⟨insertSorted c s.toList, pairwise_insertSorted s.ascending⟩

@[simp] theorem mem_insert {c x : Char} {s : Names} : x ∈ s.insert c ↔ x = c ∨ x ∈ s :=
  mem_insertSorted

/-- The set of the characters of a list. -/
def ofList (cs : List Char) : Names := cs.foldr insert empty

@[simp] theorem ofList_nil : ofList [] = empty := rfl

@[simp] theorem ofList_cons (c : Char) (cs : List Char) : ofList (c :: cs) = (ofList cs).insert c :=
  rfl

@[simp] theorem mem_ofList {x : Char} {cs : List Char} : x ∈ ofList cs ↔ x ∈ cs := by
  induction cs with
  | nil => simp [mem_def]
  | cons c cs ih => simp [ih]

/-- The number of names. -/
def size (s : Names) : Nat := s.toList.length

end Names

end TruthTables
