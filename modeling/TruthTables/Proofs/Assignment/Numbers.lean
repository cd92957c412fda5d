import TruthTables.Proofs.Assignment.Lookup
import TruthTables.Proofs.Table.Selection

/-!
# The number of an assignment

The assignments of some variables are numbered, and a number spells truth values for
them.  This goes both ways: whatever truth values the variables are to have, exactly
one of the numbers spells them.

That there is one follows the list of the variables.  A number for all but the first
is a number for all, which makes the first one true; with one more digit in front it
makes the first one false, and the digits behind stay as they are.  That there is only
one is told digit by digit, since each digit belongs to a variable.

## Main results

* `Names.exists_valuation_eq` — **some number spells given truth values.**
* `Names.eq_of_valuation_eq` — **no two numbers spell the same.**
-/

namespace TruthTables

namespace Names

/-- A set made of a list has each member of the list once. -/
theorem perm_ofList_eraseDups (cs : List Char) : (ofList cs).toList.Perm cs.eraseDups := by
  have hnodup : cs.eraseDups.Nodup := by
    have hkeys := nodup_map_firstBearers (fun c => c) cs
    rw [List.map_id', ← eraseDups_eq_firstBearers] at hkeys
    exact hkeys
  refine toList_perm hnodup fun c => ?_
  rw [List.mem_eraseDups, mem_ofList]

theorem size_ofList (cs : List Char) : (ofList cs).size = cs.eraseDups.length :=
  (perm_ofList_eraseDups cs).length_eq

/-- The place of an assignment in the list of all is its number. -/
theorem getElem?_assignments_eq_some_iff {names : Names} {i : Nat} {a : Assignment} :
    names.assignments[i]? = some a ↔ i < names.assignmentCount ∧ names.assignment i = a := by
  rw [assignments, List.getElem?_map, Option.map_eq_some_iff]
  constructor
  · rintro ⟨k, hk, rfl⟩
    obtain ⟨hi, rfl⟩ := List.getElem?_eq_some_iff.mp hk
    rw [List.length_range] at hi
    rw [List.getElem_range]
    exact ⟨hi, rfl⟩
  · rintro ⟨hi, rfl⟩
    exact ⟨i, List.getElem?_range hi, rfl⟩

/-- Only as many digits count as there are variables. -/
theorem entries_congr {i j : Nat} : ∀ cs : List Char,
    (∀ k < cs.length, i.testBit k = j.testBit k) → entries cs i = entries cs j := by
  intro cs
  induction cs with
  | nil => intro _; rfl
  | cons c cs ih =>
    intro h
    have htail : ∀ k < cs.length, i.testBit k = j.testBit k := fun k hk =>
      h k (Nat.lt_succ_of_lt hk)
    rw [entries_cons, entries_cons, ih htail, h cs.length (Nat.lt_succ_self _)]

theorem exists_entries_eq (v : Char → Bool) : ∀ cs : List Char,
    ∃ i < Nat.pow 2 cs.length, entries cs i = cs.map fun c => (c, v c) := by
  intro cs
  induction cs with
  | nil => exact ⟨0, Nat.one_pos, rfl⟩
  | cons c cs ih =>
    obtain ⟨i, hi, hentries⟩ := ih
    have hpow : Nat.pow 2 (c :: cs).length = Nat.pow 2 cs.length + Nat.pow 2 cs.length :=
      Nat.mul_two (Nat.pow 2 cs.length)
    have htop : i.testBit cs.length = false := Nat.testBit_lt_two_pow hi
    cases hv : v c with
    | true =>
      refine ⟨i, by omega, ?_⟩
      rw [entries_cons, hentries, htop, List.map_cons, hv]
      rfl
    | false =>
      -- one more digit in front, and the others stay
      have hnew : (Nat.pow 2 cs.length + i).testBit cs.length = true :=
        (Nat.testBit_two_pow_add_eq i cs.length).trans (by rw [htop]; rfl)
      have hrest : entries cs (Nat.pow 2 cs.length + i) = entries cs i :=
        entries_congr cs fun k hk => Nat.testBit_two_pow_add_gt hk i
      refine ⟨Nat.pow 2 cs.length + i, by omega, ?_⟩
      rw [entries_cons, hrest, hentries, hnew, List.map_cons, hv]
      rfl

/-- **Some number spells given truth values.** -/
theorem exists_valuation_eq (names : Names) (v : Char → Bool) :
    ∃ i < names.assignmentCount, ∀ c ∈ names, names.valuation i c = v c := by
  obtain ⟨i, hi, hentries⟩ := exists_entries_eq v names.toList
  rw [entries_eq_map] at hentries
  refine ⟨i, hi, fun c hc => ?_⟩
  have hc' := List.map_inj_left.mp hentries c hc
  exact congrArg Prod.snd hc'

/-- **No two numbers spell the same truth values.** -/
theorem eq_of_valuation_eq {names : Names} {i j : Nat} (hi : i < names.assignmentCount)
    (hj : j < names.assignmentCount)
    (h : ∀ c ∈ names, names.valuation i c = names.valuation j c) : i = j := by
  refine Nat.eq_of_testBit_eq fun b => ?_
  by_cases hb : b < names.size
  · -- the digit is that of some variable
    obtain ⟨c, hc⟩ : ∃ c, names.toList[names.size - 1 - b]? = some c :=
      ⟨_, List.getElem?_eq_getElem (show names.size - 1 - b < names.size by omega)⟩
    have hplace : names.size - 1 - (names.size - 1 - b) = b := by omega
    have hvalue := h c (List.mem_of_getElem? hc)
    rw [valuation_of_getElem? i hc, valuation_of_getElem? j hc, hplace] at hvalue
    exact Bool.not_inj hvalue
  · have hpow : names.assignmentCount ≤ Nat.pow 2 b :=
      Nat.pow_le_pow_right (by decide) (Nat.not_lt.mp hb)
    have hifalse : i.testBit b = false := Nat.testBit_lt_two_pow (Nat.lt_of_lt_of_le hi hpow)
    have hjfalse : j.testBit b = false := Nat.testBit_lt_two_pow (Nat.lt_of_lt_of_le hj hpow)
    rw [hifalse, hjfalse]

end Names

end TruthTables
