import TruthTables.Table.Basic

/-!
# Keeping the first bearer of each key

Columns are chosen by keeping, of all formulas with one header, the first.  What
this does to a list depends on nothing but which of its members share a key: the
result is a part of the list in the same order, no key comes in it twice, and a
list without repeated keys stays as it is.

The recursion keeps the head and drops its like from the tail before it goes on,
so it runs on a list that is shorter but no tail.  `firstBearers_cons` turns this
around: what is kept of the tail by itself, less the like of the head.

## Main definitions

* `firstBearers key l` — the members of `l` whose key comes for the first time.

## Main results

* `firstBearers_sublist`, `nodup_map_firstBearers` — what the result is.
* `firstBearers_append` — keeping the first bearers of two lists in a row.
* `firstBearers_congr` — only which members share a key matters.
* `eraseDups_map` — so members may be exchanged for others, different for different ones.
-/

namespace TruthTables

section FirstBearers

variable {α κ : Type} [DecidableEq κ]

/-- The members of a list whose key comes for the first time. -/
def firstBearers (key : α → κ) (l : List α) : List α :=
  l.eraseDupsBy fun a b => key a == key b

theorem selectColumns_eq (vars : List Char) (fs : List Formula) :
    selectColumns vars fs = firstBearers Formula.text (vars.map .atom ++ fs) := by
  have hsame : (fun f g : Formula => f.text == g.text)
      = fun f g => decide (f.text = g.text) := by
    funext f g
    rw [Bool.eq_iff_iff, beq_iff_eq, decide_eq_true_iff]
  rw [selectColumns, hsame]
  rfl

theorem eraseDups_eq_firstBearers [DecidableEq α] (l : List α) :
    l.eraseDups = firstBearers (fun a => a) l := rfl

@[simp] theorem firstBearers_nil (key : α → κ) : firstBearers key [] = [] := rfl

/-- Unfolding `firstBearers` as it recurs. -/
theorem firstBearers_cons_filter (key : α → κ) (a : α) (l : List α) :
    firstBearers key (a :: l) = a :: firstBearers key (l.filter fun b => key b ≠ key a) := by
  have hfilter : (l.filter fun b => (key b == key a) = false)
      = l.filter fun b => key b ≠ key a := by
    refine List.filter_congr fun b _ => ?_
    simp
  rw [firstBearers, List.eraseDupsBy_cons, hfilter]
  rfl

/-- Dropping the bearers of one key commutes with keeping first bearers. -/
theorem firstBearers_filter (key : α → κ) (k : κ) : ∀ l : List α,
    firstBearers key (l.filter fun b => key b ≠ k)
      = (firstBearers key l).filter fun b => key b ≠ k := by
  intro l
  -- Induction on the length, as the recursion leaves the tail for a part of it.
  induction hn : l.length using Nat.strongRecOn generalizing l with
  | ind n ih =>
    cases l with
    | nil => rfl
    | cons a l =>
      have hlength := List.length_filter_le (fun b => decide (key b ≠ key a)) l
      have htail := ih (l.filter fun b => key b ≠ key a).length (by simp at hn; omega) _ rfl
      rw [firstBearers_cons_filter]
      by_cases hak : key a = k
      · subst hak
        rw [List.filter_cons_of_neg (by simp), List.filter_cons_of_neg (by simp), ← htail,
          List.filter_filter]
        simp
      · rw [List.filter_cons_of_pos (by simpa using hak), List.filter_cons_of_pos
          (by simpa using hak), firstBearers_cons_filter, ← htail, List.filter_filter,
          List.filter_filter]
        simp only [Bool.and_comm]

/-- **Unfolding `firstBearers` at the head of a list.** -/
theorem firstBearers_cons (key : α → κ) (a : α) (l : List α) :
    firstBearers key (a :: l) = a :: (firstBearers key l).filter fun b => key b ≠ key a := by
  rw [firstBearers_cons_filter, firstBearers_filter]

theorem firstBearers_sublist (key : α → κ) (l : List α) : (firstBearers key l).Sublist l := by
  induction l with
  | nil => exact .slnil
  | cons a l ih =>
    rw [firstBearers_cons]
    exact (List.filter_sublist.trans ih).cons_cons a

/-- No key comes twice. -/
theorem nodup_map_firstBearers (key : α → κ) (l : List α) :
    ((firstBearers key l).map key).Nodup := by
  induction l with
  | nil => exact .nil
  | cons a l ih =>
    rw [firstBearers_cons, List.map_cons, List.nodup_cons]
    constructor
    · intro hmem
      obtain ⟨b, hb, hkey⟩ := List.mem_map.mp hmem
      have hne := (List.mem_filter.mp hb).2
      simp [hkey] at hne
    · exact ih.sublist (List.filter_sublist.map key)

/-- A list without repeated keys stays as it is. -/
theorem firstBearers_eq_self {key : α → κ} : ∀ l : List α, (l.map key).Nodup →
    firstBearers key l = l := by
  intro l
  induction l with
  | nil => intro _; rfl
  | cons a l ih =>
    intro h
    obtain ⟨ha, hl⟩ := List.nodup_cons.mp h
    rw [firstBearers_cons, ih hl, List.filter_eq_self.mpr]
    intro b hb
    have hne : key b ≠ key a := fun heq => ha (heq ▸ List.mem_map_of_mem hb)
    simpa using hne

/-- Of two lists in a row, the second loses the keys that the first has. -/
theorem firstBearers_append (key : α → κ) (l m : List α) :
    firstBearers key (l ++ m)
      = firstBearers key l ++ firstBearers key (m.filter fun b => key b ∉ l.map key) := by
  induction l with
  | nil =>
    have hall : (m.filter fun b => key b ∉ ([] : List α).map key) = m := by
      rw [List.filter_eq_self]
      intro b _
      simp
    rw [hall]
    rfl
  | cons a l ih =>
    rw [List.cons_append, firstBearers_cons, ih, List.filter_append, firstBearers_cons,
      List.cons_append, ← firstBearers_filter key (key a) (m.filter _), List.filter_filter]
    have hkeys : (fun b => decide (key b ≠ key a) && decide (key b ∉ l.map key))
        = fun b => decide (key b ∉ (a :: l).map key) := by
      funext b
      rw [← Bool.decide_and, decide_eq_decide, List.map_cons, List.mem_cons, not_or]
    rw [hkeys]

/-- **Only which members share a key matters**, not what the keys are. -/
theorem firstBearers_congr {κ' : Type} [DecidableEq κ'] {key : α → κ} {key' : α → κ'} :
    ∀ l : List α, (∀ a ∈ l, ∀ b ∈ l, key a = key b ↔ key' a = key' b) →
      firstBearers key l = firstBearers key' l := by
  intro l
  induction l with
  | nil => intro _; rfl
  | cons a l ih =>
    intro h
    have hl : ∀ b ∈ l, ∀ c ∈ l, key b = key c ↔ key' b = key' c := fun b hb c hc =>
      h b (List.mem_cons_of_mem a hb) c (List.mem_cons_of_mem a hc)
    rw [firstBearers_cons, firstBearers_cons, ih hl]
    refine congrArg _ (List.filter_congr fun b hb => ?_)
    have hb' : b ∈ l := (firstBearers_sublist key' l).subset hb
    simp only [ne_eq, h b (List.mem_cons_of_mem a hb') a List.mem_cons_self]

/-- What is done to the members makes no difference, if keys are looked up after it. -/
theorem firstBearers_map {β : Type} (key : β → κ) (g : α → β) (l : List α) :
    firstBearers key (l.map g) = (firstBearers (key ∘ g) l).map g := by
  induction l with
  | nil => rfl
  | cons a l ih =>
    rw [List.map_cons, firstBearers_cons, ih, firstBearers_cons, List.map_cons, List.filter_map]
    rfl

/-- Members that remain different are kept or dropped as before. -/
theorem eraseDups_map {β : Type} [DecidableEq α] [DecidableEq β] {g : α → β}
    (hg : Function.Injective g) (l : List α) : (l.map g).eraseDups = l.eraseDups.map g := by
  have hkeys : firstBearers ((fun b => b) ∘ g) l = firstBearers (fun a => a) l :=
    firstBearers_congr l fun _ _ _ _ => hg.eq_iff
  rw [eraseDups_eq_firstBearers, firstBearers_map, hkeys, ← eraseDups_eq_firstBearers]

end FirstBearers

end TruthTables
