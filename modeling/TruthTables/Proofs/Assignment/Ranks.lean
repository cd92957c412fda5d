import Mathlib.Data.List.Count
import TruthTables.Proofs.Assignment.Listing

/-!
# Looking values up in listed assignments

The characters whose assignments are listed may come in any order, and some of them more than
once.  They are sorted, and repetitions dropped, before anything is listed.  That is what a lookup
relies on when it halves the range: with a name out of order, the entry in the middle could send
it to the wrong side, and a name would be missed that is there.

Sorted, each character stands behind as many others as are smaller.  This number, its rank, can be
told from the characters as they are given, and it names the digit that spells the value.

## Main definitions

* `rankIn cs c` — the number of different characters in `cs` that are smaller than `c`.
* `Assignment.LooksUp cs i a` — what is found in the assignment `a`, if it has the number `i`
  among those of the characters in `cs`.

## Main results

* `Names.valuation_ofList` — **the rank of a character names its digit.**
* `assignments_looksUp` — what is found in the assignments of any characters.
-/

namespace TruthTables

/-- The number of different characters in a list that are smaller than a given one. -/
def rankIn (cs : List Char) (c : Char) : Nat := cs.eraseDups.countP (· < c)

/-- There are more characters than those smaller than one of them. -/
theorem rankIn_lt {cs : List Char} {c : Char} (hc : c ∈ cs) :
    rankIn cs c < cs.eraseDups.length := by
  unfold rankIn
  rw [List.countP_lt_length_iff]
  exact ⟨c, List.mem_eraseDups.mpr hc, decide_eq_false (Char.lt_irrefl c)⟩

namespace Names

/-- **The rank of a character names its digit.** -/
theorem valuation_ofList {cs : List Char} {c : Char} (hc : c ∈ cs) (i : Nat) :
    (ofList cs).valuation i c = !i.testBit (cs.eraseDups.length - 1 - rankIn cs c) := by
  have hrank : (ofList cs).toList.idxOf c = rankIn cs c := by
    rw [idxOf_toList (mem_ofList.mpr hc), (perm_ofList_eraseDups cs).countP_eq]
    rfl
  rw [valuation, size_ofList, hrank]

end Names

/-- What is found in an assignment for the characters in `cs`, if its number is `i`. -/
structure Assignment.LooksUp (cs : List Char) (i : Nat) (a : Assignment) : Prop where
  /-- The variables are the characters, sorted, and of the same ones side by side only the first. -/
  names_eq : a.names = (cs.mergeSort fun c d => c ≤ d).destutter (· ≠ ·)
  /-- They are in order of code points, none of them twice. -/
  ascending : a.toList.Pairwise (·.1 < ·.1)
  /-- A value is found exactly if it stands beside the name. -/
  found : ∀ c b, a.get? c = some b ↔ (c, b) ∈ a.toList
  /-- Nothing is found for exactly the characters that were not given. -/
  missing : ∀ c, a.get? c = none ↔ c ∉ cs
  /-- The character of rank `j` among `n` has the value that the digit `n - 1 - j` spells, the
  digit `0` being true. -/
  digit : ∀ c ∈ cs, rankIn cs c < cs.eraseDups.length ∧
    a.get? c = some (!i.testBit (cs.eraseDups.length - 1 - rankIn cs c))
  /-- Of fewer than 64 characters, a word of 64 bits holds all digits: the value is read off it by
  shifting to the right and masking. -/
  word : cs.eraseDups.length < 64 → ∀ c ∈ cs, a.get? c =
    some (UInt64.ofNat i >>> UInt64.ofNat (cs.eraseDups.length - rankIn cs c - 1) &&& 1 == 0)

/-- **What is found in the assignments of some characters**, in whatever order these are given and
however often. -/
theorem assignments_looksUp {cs : List Char} {i : Nat} {a : Assignment}
    (h : (Names.ofList cs).assignments[i]? = some a) : a.LooksUp cs i := by
  obtain ⟨hi, rfl⟩ := Names.getElem?_assignments_eq_some_iff.mp h
  have hget : ∀ c ∈ cs, ((Names.ofList cs).assignment i).get? c =
      some (!i.testBit (cs.eraseDups.length - 1 - rankIn cs c)) := by
    intro c hc
    rw [Names.get?_assignment (Names.mem_ofList.mpr hc), Names.valuation_ofList hc]
  exact {
    names_eq := by rw [Names.names_assignment, Names.toList_ofList]
    ascending := ((Names.ofList cs).assignment i).ascending
    found := fun c b => Assignment.get?_eq_some_iff
    missing := by
      intro c
      rw [Assignment.get?_eq_none_iff, Names.names_assignment, ← Names.mem_def, Names.mem_ofList]
    digit := fun c hc => ⟨rankIn_lt hc, hget c hc⟩
    word := by
      intro hn c hc
      have hi' : i < Nat.pow 2 64 := by
        refine Nat.lt_trans hi (Nat.pow_lt_pow_right (by decide) ?_)
        rwa [Names.size_ofList]
      rw [hget c hc, Names.shiftRight_and_one_eq_zero hi' (by omega), Nat.sub_right_comm] }

/-- Characters out of order, one of them twice, in the assignment with the digits `010`. -/
theorem assignments_looksUp_of_unsorted :
    let cs := ['→', 'A', 'Ω', 'A']
    let a := (Names.ofList cs).assignment 2
    (Names.ofList cs).assignments[2]? = some a ∧
      a.get? 'A' = some true ∧ a.get? 'Ω' = some false ∧ a.get? '→' = some true ∧
      a.get? 'B' = none := by
  intro cs a
  have ha : (Names.ofList cs).assignments[2]? = some a := rfl
  obtain ⟨-, -, -, hmissing, hdigit, -⟩ := assignments_looksUp ha
  refine ⟨ha, ?_, ?_, ?_, ?_⟩
  · rw [(hdigit 'A' (by decide)).2]
    decide
  · rw [(hdigit 'Ω' (by decide)).2]
    decide
  · rw [(hdigit '→' (by decide)).2]
    decide
  · exact (hmissing 'B').mpr (by decide)

end TruthTables
