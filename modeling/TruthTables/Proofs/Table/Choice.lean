import Mathlib.Data.List.Induction
import TruthTables.Proofs.Table.Selection

/-!
# Which formulas become columns

The formulas among which columns are chosen need not have been read from a line: they may be
any formulas in any order, and the variables before them may come repeatedly.  Formulas that
differ may have one written form, so that only one of them becomes a column.  Which one it is
depends on nothing but what comes earlier: a formula becomes a column exactly if no formula
before it has its written form.

So the choice can be made in one pass, remembering only the written forms seen up to now
(`Sieve`).  The proofs follow this pass: they put one formula more to the end of a list, where
it is kept if its written form is new (`firstBearers_concat`).

## Main definitions

* `Sieve.offer` — one step of the pass.
* `ChoosesFirst fs chosen` — the formulas `chosen` are those of `fs` with a new written form.

## Main results

* `firstBearers_eq_filter_zipIdx` — what is kept, told place by place.
* `find?_firstBearers` — the first bearer of each key is kept.
* `Sieve.isAfter_foldl` — what is remembered after any number of steps.
* `selectColumns_choosesFirst` — **which formulas become columns.**
-/

namespace TruthTables

/-! ### First bearers -/

section FirstBearers

variable {α κ : Type} [DecidableEq κ] (key : α → κ)

/-- A member at the end is kept if its key is new. -/
theorem firstBearers_concat (l : List α) (a : α) :
    firstBearers key (l ++ [a]) =
      firstBearers key l ++ if key a ∈ l.map key then [] else [a] := by
  rw [firstBearers_append]
  by_cases ha : key a ∈ l.map key
  · rw [if_pos ha, List.filter_cons_of_neg (by simpa using ha)]
    rfl
  · rw [if_neg ha, List.filter_cons_of_pos (by simpa using ha)]
    rfl

/-- **What is kept, told place by place**: the members with no member of the same key before
them. -/
theorem firstBearers_eq_filter_zipIdx (l : List α) :
    firstBearers key l =
      (l.zipIdx.filter fun x : α × Nat => ∀ b ∈ l.take x.2, key b ≠ key x.1).map Prod.fst := by
  induction l using List.reverseRecOn with
  | nil => rfl
  | append_singleton l a ih =>
    -- what comes before a place of `l` is as it was
    have hold : (l.zipIdx.filter fun x : α × Nat => ∀ b ∈ (l ++ [a]).take x.2, key b ≠ key x.1) =
        l.zipIdx.filter fun x : α × Nat => ∀ b ∈ l.take x.2, key b ≠ key x.1 := by
      refine List.filter_congr fun x hx => ?_
      have hplace : x.2 ≤ l.length := by
        have := List.snd_lt_of_mem_zipIdx hx
        omega
      rw [List.take_append_of_le_length hplace]
    have hnew : (∀ b ∈ (l ++ [a]).take l.length, key b ≠ key a) ↔ key a ∉ l.map key := by
      rw [List.take_left, List.mem_map]
      constructor
      · rintro h ⟨b, hb, hkey⟩
        exact h b hb hkey
      · intro h b hb hkey
        exact h ⟨b, hb, hkey⟩
    rw [firstBearers_concat, ih, List.zipIdx_append, List.filter_append, List.map_append, hold]
    congr 1
    by_cases ha : key a ∈ l.map key
    · rw [if_pos ha, List.zipIdx_singleton, List.filter_cons_of_neg]
      · rfl
      · simpa only [Nat.zero_add, decide_eq_true_eq, hnew, Decidable.not_not] using ha
    · rw [if_neg ha, List.zipIdx_singleton, List.filter_cons_of_pos]
      · rfl
      · simpa only [Nat.zero_add, decide_eq_true_eq, hnew] using ha

/-- **The first bearer of each key is kept.** -/
theorem find?_firstBearers (l : List α) (k : κ) :
    (firstBearers key l).find? (fun a => key a = k) = l.find? fun a => key a = k := by
  induction l with
  | nil => rfl
  | cons a l ih =>
    rw [firstBearers_cons]
    by_cases ha : key a = k
    · rw [List.find?_cons_of_pos (by simpa using ha), List.find?_cons_of_pos (by simpa using ha)]
    · -- what the head makes drop out of the tail has another key
      have hother : (fun b => decide (decide (key b ≠ key a) = true ∧ decide (key b = k) = true)) =
          fun b => decide (key b = k) := by
        funext b
        by_cases hb : key b = k
        · simp [hb, Ne.symm ha]
        · simp [hb]
      rw [List.find?_cons_of_neg (by simpa using ha), List.find?_cons_of_neg (by simpa using ha),
        List.find?_filter, hother, ih]

/-- Keeping first bearers once more, behind the same members, keeps all of them. -/
theorem firstBearers_append_firstBearers (l m : List α) :
    firstBearers key (l ++ firstBearers key (l ++ m)) = firstBearers key (l ++ m) := by
  have hrest : ((firstBearers key (l ++ m)).filter fun b => key b ∉ l.map key) =
      firstBearers key (m.filter fun b => key b ∉ l.map key) := by
    rw [firstBearers_append, List.filter_append, List.filter_eq_nil_iff.mpr, List.nil_append,
      List.filter_eq_self.mpr]
    · intro b hb
      exact (List.mem_filter.mp ((firstBearers_sublist key _).subset hb)).2
    · intro b hb
      have hmem := List.mem_map_of_mem (f := key) ((firstBearers_sublist key l).subset hb)
      simpa using hmem
  rw [firstBearers_append, hrest, firstBearers_eq_self _ (nodup_map_firstBearers key _),
    ← firstBearers_append]

end FirstBearers

/-! ### One pass -/

/-- What is remembered while formulas are offered one after the other. -/
structure Sieve where
  /-- The written forms seen up to now. -/
  seen : List Text
  /-- The formulas kept up to now. -/
  kept : List Formula

namespace Sieve

/-- Nothing has been offered. -/
def empty : Sieve := ⟨[], []⟩

/-- A formula with a written form not seen before is kept. -/
def offer (s : Sieve) (f : Formula) : Sieve :=
  if s.seen.contains f.text then s else ⟨f.text :: s.seen, s.kept ++ [f]⟩

/-- What is remembered when the formulas `fs` have been offered. -/
structure IsAfter (s : Sieve) (fs : List Formula) : Prop where
  /-- The written forms seen are theirs. -/
  mem_seen : ∀ t, t ∈ s.seen ↔ t ∈ fs.map Formula.text
  /-- Of the formulas with one written form the first is kept. -/
  kept_eq : s.kept = firstBearers Formula.text fs

theorem isAfter_empty : empty.IsAfter [] := ⟨fun _ => Iff.rfl, rfl⟩

/-- **One step.** -/
theorem IsAfter.offer {s : Sieve} {fs : List Formula} (h : s.IsAfter fs) (f : Formula) :
    (s.offer f).IsAfter (fs ++ [f]) := by
  obtain ⟨hseen, hkept⟩ := h
  rw [Sieve.offer]
  by_cases hf : f.text ∈ fs.map Formula.text
  · rw [if_pos (List.contains_iff_mem.mpr ((hseen _).mpr hf))]
    refine ⟨fun t => ?_, ?_⟩
    · rw [hseen, List.map_append, List.mem_append, List.map_singleton, List.mem_singleton]
      constructor
      · exact .inl
      · rintro (ht | rfl)
        · exact ht
        · exact hf
    · rw [firstBearers_concat, if_pos hf, List.append_nil, hkept]
  · rw [if_neg fun h => hf ((hseen _).mp (List.contains_iff_mem.mp h))]
    refine ⟨fun t => ?_, ?_⟩
    · rw [List.mem_cons, hseen, List.map_append, List.mem_append, List.map_singleton,
        List.mem_singleton]
      exact or_comm
    · rw [firstBearers_concat, if_neg hf, hkept]

/-- **Any number of steps.** -/
theorem isAfter_foldl (fs : List Formula) : (fs.foldl Sieve.offer empty).IsAfter fs := by
  induction fs using List.reverseRecOn with
  | nil => exact isAfter_empty
  | append_singleton fs f ih =>
    rw [List.foldl_append]
    exact ih.offer f

end Sieve

/-! ### Columns -/

/-- The formulas `chosen` are those of the formulas `fs` whose written form is new. -/
structure ChoosesFirst (fs chosen : List Formula) : Prop where
  /-- A formula is chosen exactly if none before it has its written form, and the order is kept. -/
  eq_filter : chosen =
    (fs.zipIdx.filter fun x : Formula × Nat => ∀ g ∈ fs.take x.2, g.text ≠ x.1.text).map Prod.fst
  /-- To choose them, it is enough to remember the written forms seen up to now. -/
  eq_kept : chosen = (fs.foldl Sieve.offer .empty).kept
  /-- No written form comes twice. -/
  nodup_text : (chosen.map Formula.text).Nodup
  /-- Each written form is kept, and the formula that has it is the first that had it. -/
  bearer : ∀ f ∈ fs, ∃ g ∈ chosen, g.text = f.text ∧
    fs.find? (fun h => h.text = f.text) = some g
  /-- The order is that of `fs`. -/
  sublist : chosen.Sublist fs

/-- **Which formulas become columns**, among any variables and formulas: those whose written form
is new.  To choose once more among the columns changes nothing. -/
theorem selectColumns_choosesFirst (vars : List Char) (fs : List Formula) :
    ChoosesFirst (vars.map .atom ++ fs) (selectColumns vars fs) ∧
      selectColumns vars (selectColumns vars fs) = selectColumns vars fs := by
  rw [selectColumns_eq, selectColumns_eq]
  refine ⟨?_, firstBearers_append_firstBearers ..⟩
  generalize vars.map Formula.atom ++ fs = fs
  exact {
    eq_filter := firstBearers_eq_filter_zipIdx ..
    eq_kept := (Sieve.isAfter_foldl fs).kept_eq.symm
    nodup_text := nodup_map_firstBearers ..
    bearer := by
      intro f hf
      -- some formula has this written form, as `f` has it
      have hsome : (fs.find? fun h => h.text = f.text).isSome := by
        rw [List.find?_isSome]
        exact ⟨f, hf, decide_eq_true rfl⟩
      obtain ⟨g, hg⟩ := Option.isSome_iff_exists.mp hsome
      have hkept := (find?_firstBearers Formula.text fs f.text).trans hg
      have htext : g.text = f.text := by simpa using List.find?_some hkept
      exact ⟨g, List.mem_of_find?_eq_some hkept, htext, hg⟩
    sublist := firstBearers_sublist .. }

/-- A variable may come twice, and a negated conjunction is written like a conjunction of which the
first operand is negated. -/
example :
    let f : Formula := .neg (.bin .and (.atom '~') (.atom 'A'))
    let g : Formula := .bin .and (.neg (.atom '~')) (.atom 'A')
    selectColumns ['B', '~', 'B'] [g, .atom '~', f, .atom 'A'] =
      [.atom 'B', .atom '~', g, .atom 'A'] := by
  decide

end TruthTables
