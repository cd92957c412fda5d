import Mathlib.Data.List.Destutter
import TruthTables.Names

/-!
# Sets of names as lists

A set of names is the list of its members in order.  So the members determine the list, and any
other list that has them, none twice, has them at most in another order.  The place of a member
in the list tells how many members are smaller.

A set is collected from a list by putting one character after the other where it belongs.  One
may as well sort the list first, repetitions included, and then drop every character that is the
same as the one before it: dropping looks at neighbours only, but in a sorted list the same
characters are neighbours.

## Main results

* `Names.toList_perm`, `Names.eq_of_mem_iff` — **the members determine the list.**
* `Names.idxOf_toList` — the place of a member is the number of smaller members.
* `Names.toList_ofList` — **collecting is sorting and dropping repetitions.**
-/

namespace TruthTables

namespace Names

/-! ### The list of the members -/

theorem nodup_toList (names : Names) : names.toList.Nodup :=
  names.ascending.imp fun h heq => absurd (heq ▸ h) (Char.lt_irrefl _)

/-- A list that has the members of a set, none twice, has them in another order. -/
theorem toList_perm {names : Names} {cs : List Char} (hcs : cs.Nodup)
    (h : ∀ c, c ∈ cs ↔ c ∈ names) : names.toList.Perm cs :=
  (List.perm_ext_iff_of_nodup names.nodup_toList hcs).mpr fun c => (h c).symm

/-- **Sets with the same members are the same.** -/
theorem eq_of_mem_iff {s t : Names} (h : ∀ c, c ∈ s ↔ c ∈ t) : s = t := by
  have hperm : s.toList.Perm t.toList := toList_perm t.nodup_toList fun c => (h c).symm
  exact Names.ext (hperm.eq_of_pairwise (fun _ _ _ _ hlt hgt => absurd hgt (Char.lt_asymm hlt))
    s.ascending t.ascending)

theorem size_le_of_subset {names names' : Names} (h : ∀ c ∈ names, c ∈ names') :
    names.size ≤ names'.size :=
  names.nodup_toList.length_le_of_subset fun c hc => h c hc

/-- Names that are exchanged for different ones are the same set with the names
exchanged, although perhaps in another order. -/
theorem perm_ofList_map {ρ : Char → Char} (hρ : Function.Injective ρ) (cs : List Char) :
    (ofList (cs.map ρ)).toList.Perm ((ofList cs).toList.map ρ) := by
  refine toList_perm ((ofList cs).nodup_toList.map hρ) fun c => ?_
  rw [mem_ofList, List.mem_map, List.mem_map]
  simp only [← mem_def, mem_ofList]

/-! ### Places -/

/-- In an ascending list the smaller members are those that come before. -/
theorem idxOf_eq_countP_lt {c : Char} : ∀ {cs : List Char}, cs.Pairwise (· < ·) → c ∈ cs →
    cs.idxOf c = cs.countP (· < c) := by
  intro cs
  induction cs with
  | nil =>
    intro _ hc
    cases hc
  | cons d ds ih =>
    intro hs hc
    obtain ⟨hd, hds⟩ := List.pairwise_cons.mp hs
    rcases List.mem_cons.mp hc with rfl | hc
    · -- all others are larger
      rw [List.idxOf_cons_self, eq_comm, List.countP_eq_zero]
      intro x hx
      rw [decide_eq_true_eq]
      rcases List.mem_cons.mp hx with rfl | hx
      · exact Char.lt_irrefl x
      · exact Char.lt_asymm (hd x hx)
    · have hlt : d < c := hd c hc
      have hne : d ≠ c := fun h => absurd (h ▸ hlt) (Char.lt_irrefl _)
      rw [List.idxOf_cons_ne ds hne, List.countP_cons_of_pos (by simpa using hlt), ih hds hc]

/-- **The place of a member is the number of smaller members.** -/
theorem idxOf_toList {names : Names} {c : Char} (hc : c ∈ names) :
    names.toList.idxOf c = names.toList.countP (· < c) :=
  idxOf_eq_countP_lt names.ascending hc

/-! ### Collecting and sorting -/

/-- In a sorted list it is enough to drop characters that are the same as their neighbours. -/
theorem pairwise_lt_destutter {cs : List Char} (hs : cs.Pairwise (· ≤ ·)) :
    (cs.destutter (· ≠ ·)).Pairwise (· < ·) := by
  have hle : (cs.destutter (· ≠ ·)).Pairwise (· ≤ ·) := hs.sublist (List.destutter_sublist _ cs)
  have hne : (cs.destutter (· ≠ ·)).Pairwise (· ≠ ·) := by
    rw [hs.destutter_eq_dedup]
    exact List.nodup_dedup cs
  exact (hle.and hne).imp fun h => Std.lt_of_le_of_ne h.1 h.2

/-- **Collecting the characters of a list is sorting it and dropping repetitions.** -/
theorem toList_ofList (cs : List Char) :
    (ofList cs).toList = (cs.mergeSort fun c d => c ≤ d).destutter (· ≠ ·) := by
  have hsorted : (cs.mergeSort fun c d => c ≤ d).Pairwise (· ≤ ·) := by
    have h : (cs.mergeSort fun c d => c ≤ d).Pairwise fun c d => decide (c ≤ d) = true := by
      apply List.pairwise_mergeSort
      · simpa using fun _ _ _ => Char.le_trans
      · simpa using Char.le_total
    simpa using h
  have hmem : ∀ c, c ∈ ofList cs ↔ c ∈ (⟨_, pairwise_lt_destutter hsorted⟩ : Names) := by
    intro c
    rw [mem_ofList, mem_def]
    simp only [hsorted.destutter_eq_dedup, List.mem_dedup, List.mem_mergeSort]
  exact congrArg toList (eq_of_mem_iff hmem)

end Names

end TruthTables
