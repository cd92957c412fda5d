import TruthTables.Assignment.Enumeration
import TruthTables.Proofs.Names

/-!
# Looking up values

A variable is looked up among sorted entries by halving the range where it can
be.  The search finds an entry exactly if there is one in its range: since the
names ascend, the entry in the middle tells on which side of it the name has to
be.

The entries of the assignment with a given number are then put in closed form:
each variable has the value that its digit spells.

## Main definitions

* `Names.valuation names i` — the truth values that the number `i` spells.

## Main results

* `Assignment.get?_eq_some_iff` — **lookup finds exactly the entries.**
* `Names.entries_eq_map` — the entries of an assignment in closed form.
* `Names.get?_assignment` — the value of a variable in an assignment.
-/

namespace TruthTables

namespace Assignment

/-! ### The search -/

variable {entries : Array (Char × Bool)}

theorem fst_lt_of_lt (hs : entries.toList.Pairwise (·.1 < ·.1)) {i j : Nat} (hij : i < j)
    (hj : j < entries.size) : entries[i].1 < entries[j].1 := by
  have hj' : j < entries.toList.length := by rwa [Array.length_toList]
  have h := List.pairwise_iff_getElem.mp hs i j (Nat.lt_trans hij hj') hj' hij
  simpa using h

/-- The order of two entries can be read off their names. -/
theorem lt_of_fst_lt (hs : entries.toList.Pairwise (·.1 < ·.1)) {i j : Nat}
    (hi : i < entries.size) (hj : j < entries.size) (h : entries[i].1 < entries[j].1) : i < j := by
  rcases Nat.lt_trichotomy i j with hlt | rfl | hgt
  · exact hlt
  · exact absurd h (Char.lt_irrefl _)
  · exact absurd (fst_lt_of_lt hs hgt hi) (Char.lt_asymm h)

/-- **The search finds exactly the entries in its range.** -/
theorem search_eq_some_iff (hs : entries.toList.Pairwise (·.1 < ·.1)) {name : Char} {b : Bool}
    {low high : Nat} {h : high ≤ entries.size} :
    search entries name low high h = some b ↔
      ∃ k, ∃ hk : k < entries.size, low ≤ k ∧ k < high ∧ entries[k] = (name, b) := by
  fun_induction search entries name low high h with
  | case1 low high h hlt middle entry hname =>
    have hmiddle : middle < entries.size := by omega
    constructor
    · intro hb
      exact ⟨middle, hmiddle, by omega, by omega, Prod.ext hname (Option.some.inj hb)⟩
    · rintro ⟨k, hk, -, -, hentry⟩
      have hfst : entries[k].1 = entries[middle].1 := by rw [hentry]; exact hname.symm
      -- no two entries have the same name
      obtain rfl : k = middle := by
        rcases Nat.lt_trichotomy k middle with hkm | heq | hmk
        · exact absurd (hfst ▸ fst_lt_of_lt hs hkm hmiddle) (Char.lt_irrefl _)
        · exact heq
        · exact absurd (hfst ▸ fst_lt_of_lt hs hmk hk) (Char.lt_irrefl _)
      exact congrArg some (congrArg Prod.snd hentry)
  | case2 low high h hlt middle entry hname hless ih =>
    have hmiddle : middle < entries.size := by omega
    rw [ih]
    constructor
    · rintro ⟨k, hk, hlow, hhigh, hentry⟩
      exact ⟨k, hk, by omega, hhigh, hentry⟩
    · rintro ⟨k, hk, -, hhigh, hentry⟩
      -- the name comes after that of the middle entry, so its place does
      have hmk : middle < k := lt_of_fst_lt hs hmiddle hk (by rw [hentry]; exact hless)
      exact ⟨k, hk, hmk, hhigh, hentry⟩
  | case3 low high h hlt middle entry hname hless ih =>
    have hmiddle : middle < entries.size := by omega
    rw [ih]
    constructor
    · rintro ⟨k, hk, hlow, hhigh, hentry⟩
      exact ⟨k, hk, hlow, by omega, hentry⟩
    · rintro ⟨k, hk, hlow, -, hentry⟩
      have hgreater : name < entry.1 :=
        Std.lt_of_le_of_ne (Char.not_lt.mp hless) (Ne.symm hname)
      have hkm : k < middle := lt_of_fst_lt hs hk hmiddle (by rw [hentry]; exact hgreater)
      exact ⟨k, hk, hlow, hkm, hentry⟩
  | case4 low high h hlt =>
    simp only [reduceCtorEq, false_iff]
    rintro ⟨k, hk, hlow, hhigh, -⟩
    omega

/-- **Lookup finds exactly the entries.** -/
theorem get?_eq_some_iff {a : Assignment} {name : Char} {b : Bool} :
    a.get? name = some b ↔ (name, b) ∈ a.toList := by
  rw [get?, search_eq_some_iff a.ascending, toList, Array.mem_toList_iff, Array.mem_iff_getElem]
  constructor
  · rintro ⟨k, hk, -, -, hentry⟩
    exact ⟨k, hk, hentry⟩
  · rintro ⟨k, hk, hentry⟩
    exact ⟨k, hk, Nat.zero_le k, hk, hentry⟩

end Assignment

/-! ### The assignment with a given number -/

namespace Names

/-- The truth values that a number spells for some variables: the digit of a
variable is as many places from the right as there are variables after it, and
the digit `0` means true. -/
def valuation (names : Names) (i : Nat) (c : Char) : Bool :=
  !i.testBit (names.size - 1 - names.toList.idxOf c)

/-- The value of the variable with a given place. -/
theorem valuation_of_getElem? {names : Names} {k : Nat} {c : Char} (i : Nat)
    (hc : names.toList[k]? = some c) :
    names.valuation i c = !i.testBit (names.size - 1 - k) := by
  obtain ⟨hk, rfl⟩ := List.getElem?_eq_some_iff.mp hc
  rw [valuation, names.nodup_toList.idxOf_getElem k hk]

theorem getElem?_entries : ∀ (cs : List Char) (i k : Nat),
    (entries cs i)[k]? = cs[k]?.map fun c => (c, !i.testBit (cs.length - 1 - k)) := by
  intro cs i
  induction cs with
  | nil => intro k; rfl
  | cons c cs ih =>
    intro k
    cases k with
    | zero => simp
    | succ k =>
      have hplace : cs.length + 1 - 1 - (k + 1) = cs.length - 1 - k := by omega
      rw [entries_cons, List.getElem?_cons_succ, List.getElem?_cons_succ, List.length_cons, ih k,
        hplace]

/-- **The entries of an assignment in closed form**: each variable with its value. -/
theorem entries_eq_map (names : Names) (i : Nat) :
    entries names.toList i = names.toList.map fun c => (c, names.valuation i c) := by
  refine List.ext_getElem? fun k => ?_
  rw [getElem?_entries, List.getElem?_map]
  cases hc : names.toList[k]? with
  | none => rfl
  | some c =>
    rw [Option.map_some, Option.map_some, valuation_of_getElem? i hc]
    rfl

theorem map_snd_toList_assignment (names : Names) (i : Nat) :
    (names.assignment i).toList.map (·.2) = names.toList.map (names.valuation i) := by
  rw [toList_assignment, entries_eq_map, List.map_map]
  rfl

/-- **The value of a variable in an assignment** is the one that its digit spells. -/
theorem get?_assignment {names : Names} {c : Char} (hc : c ∈ names) (i : Nat) :
    (names.assignment i).get? c = some (names.valuation i c) := by
  rw [Assignment.get?_eq_some_iff, toList_assignment, entries_eq_map]
  exact List.mem_map.mpr ⟨c, hc, rfl⟩

end Names

end TruthTables
