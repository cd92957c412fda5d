import Mathlib.Logic.ExistsUnique
import TruthTables.Assignment.Cursor
import TruthTables.Proofs.Assignment.Numbers

/-!
# The list of all assignments

The assignments of some characters are listed by their numbers.  Each choice of truth values
comes once in the list, since exactly one number spells it.

Read as a word of truth values, an assignment has the digits of its number, the most
significant one first and each of them turned around.  So where two numbers first differ, the
smaller one spells true and the larger one false: the words descend as the numbers ascend, and
the list begins with true throughout and ends with false throughout.

Fewer than 64 characters have fewer than `2 ^ 64` assignments.  Then a value can be read off a
machine word as well, by shifting the number to the right and keeping the last digit.

## Main definitions

* `Assignment.names`, `Assignment.values` — the two columns of an assignment.
* `ComesAfter ys xs` — the truth values `ys` come after `xs` in lexicographic order.
* `Enumerates cs all` — `all` is the list of all assignments of the characters in `cs`.

## Main results

* `Assignment.get?_eq_none_iff` — which variables have no value.
* `Names.existsUnique_assignment` — **each choice of truth values is listed once.**
* `Names.comesAfter_entries`, `Names.pairwise_comesAfter` — **the list descends.**
* `Names.words_assignments` — the list, computed with machine words.
* `enumerates_assignments` — all of this, for the characters of any list.
-/

namespace TruthTables

namespace Assignment

/-- The variables that have a value, in order. -/
def names (a : Assignment) : List Char := a.toList.map (·.1)

/-- The values, in the order of the variables. -/
def values (a : Assignment) : List Bool := a.toList.map (·.2)

variable {a : Assignment}

theorem mem_names_iff {c : Char} : c ∈ a.names ↔ ∃ b, a.get? c = some b := by
  rw [names, List.mem_map]
  constructor
  · rintro ⟨⟨_, b⟩, hx, rfl⟩
    exact ⟨b, get?_eq_some_iff.mpr hx⟩
  · rintro ⟨b, hb⟩
    exact ⟨(c, b), get?_eq_some_iff.mp hb, rfl⟩

/-- A variable has no value if it is not among those that have one. -/
theorem get?_eq_none_iff {c : Char} : a.get? c = none ↔ c ∉ a.names := by
  rw [mem_names_iff, Option.eq_none_iff_forall_ne_some, not_exists]

end Assignment

/-- One list of truth values comes after another if it has false, and the other has true, where
they first differ. -/
abbrev ComesAfter (later earlier : List Bool) : Prop :=
  List.Lex (fun x y => x = false ∧ y = true) later earlier

/-- The list `all` has all assignments of the characters in `cs`, each once, and in order. -/
structure Enumerates (cs : List Char) (all : List Assignment) : Prop where
  /-- There are as many as there are choices of truth values for different characters. -/
  length_eq : all.length = Nat.pow 2 cs.eraseDups.length
  /-- The characters that have a value are in order of code points, none of them twice. -/
  ascending : ∀ a ∈ all, a.names.Pairwise (· < ·)
  /-- They are those of `cs`. -/
  mem_names : ∀ a ∈ all, ∀ c, c ∈ a.names ↔ c ∈ cs
  /-- Whatever values the characters are to have, they have them at exactly one place. -/
  once : ∀ v : Char → Bool, ∃! i : Nat, ∃ a, all[i]? = some a ∧ ∀ x ∈ a.toList, x.2 = v x.1
  /-- From each assignment to those behind it the values descend, true being above false. -/
  descending : all.Pairwise fun a b => ComesAfter b.values a.values
  /-- The first assignment makes all characters true. -/
  first : ∃ a, all.head? = some a ∧ ∀ b ∈ a.values, b = true
  /-- The last one makes all of them false. -/
  last : ∃ a, all.getLast? = some a ∧ ∀ b ∈ a.values, b = false
  /-- Words of 64 bits are wide enough for fewer than 64 characters: a one that is shifted to the
  left counts the assignments, and the values of each are the digits of its place that are
  left when this is shifted to the right and masked. -/
  words : cs.eraseDups.length < 64 →
    ((1 : UInt64) <<< UInt64.ofNat cs.eraseDups.length).toNat = all.length ∧
      ∀ i a, all[i]? = some a → ∀ j b, a.values[j]? = some b →
        b = (UInt64.ofNat i >>> UInt64.ofNat (cs.eraseDups.length - j - 1) &&& 1 == 0)

namespace Names

/-! ### The order of the list -/

/-- **A larger number spells values that come after.**  Only as many digits count as there are
variables, the others are those of variables further to the left. -/
theorem comesAfter_entries {i j : Nat} : ∀ cs : List Char,
    i % Nat.pow 2 cs.length < j % Nat.pow 2 cs.length →
      ComesAfter ((entries cs j).map (·.2)) ((entries cs i).map (·.2)) := by
  intro cs
  induction cs with
  | nil =>
    intro h
    exact absurd h (by simp [Nat.mod_one])
  | cons c cs ih =>
    intro h
    -- the digit of the first variable stands before the digits of the others
    have hdigit : ∀ k, k % Nat.pow 2 (cs.length + 1) =
        k % Nat.pow 2 cs.length + Nat.pow 2 cs.length * (k.testBit cs.length).toNat := by
      intro k
      rw [Nat.toNat_testBit]
      exact Nat.mod_pow_succ
    have hlt : j % Nat.pow 2 cs.length < Nat.pow 2 cs.length :=
      Nat.mod_lt _ (Nat.two_pow_pos cs.length)
    rw [List.length_cons, hdigit, hdigit] at h
    rw [entries_cons, entries_cons, List.map_cons, List.map_cons]
    cases hi : i.testBit cs.length with
    | false =>
      cases hj : j.testBit cs.length with
      | false =>
        rw [hi, hj] at h
        exact .cons (ih (by omega))
      | true => exact .rel ⟨rfl, rfl⟩
    | true =>
      cases hj : j.testBit cs.length with
      | false =>
        -- then `j` would be the smaller one
        rw [hi, hj, Bool.toNat_true, Bool.toNat_false] at h
        omega
      | true =>
        rw [hi, hj] at h
        exact .cons (ih (by omega))

section Listing

variable (names : Names)

@[simp] theorem names_assignment (i : Nat) : (names.assignment i).names = names.toList :=
  map_fst_entries names.toList i

@[simp] theorem values_assignment (i : Nat) :
    (names.assignment i).values = names.toList.map (names.valuation i) :=
  names.map_snd_toList_assignment i

theorem names_of_mem_assignments {names : Names} {a : Assignment} (ha : a ∈ names.assignments) :
    a.names = names.toList := by
  obtain ⟨i, -, rfl⟩ := List.mem_map.mp ha
  exact names.names_assignment i

theorem comesAfter_assignment {i j : Nat} (hij : i < j) (hj : j < names.assignmentCount) :
    ComesAfter (names.assignment j).values (names.assignment i).values := by
  have hi : i < names.assignmentCount := Nat.lt_trans hij hj
  refine comesAfter_entries names.toList ?_
  show i % names.assignmentCount < j % names.assignmentCount
  rwa [Nat.mod_eq_of_lt hi, Nat.mod_eq_of_lt hj]

theorem length_assignments_ofList (cs : List Char) :
    (ofList cs).assignments.length = Nat.pow 2 cs.eraseDups.length := by
  rw [length_assignments, assignmentCount, size_ofList]

/-- **The list descends.** -/
theorem pairwise_comesAfter :
    names.assignments.Pairwise fun a b => ComesAfter b.values a.values := by
  rw [assignments, List.pairwise_map]
  refine List.pairwise_lt_range.imp_of_mem fun _ hj hij => ?_
  exact names.comesAfter_assignment hij (List.mem_range.mp hj)

/-! ### What is listed -/

/-- **Each choice of truth values is listed once.** -/
theorem existsUnique_assignment (v : Char → Bool) :
    ∃! i : Nat, ∃ a, names.assignments[i]? = some a ∧ ∀ x ∈ a.toList, x.2 = v x.1 := by
  have hspells : ∀ {i : Nat}, (∀ x ∈ (names.assignment i).toList, x.2 = v x.1) ↔
      ∀ c ∈ names, names.valuation i c = v c := by
    intro i
    rw [toList_assignment, entries_eq_map, List.forall_mem_map]
    rfl
  obtain ⟨i, hi, hv⟩ := names.exists_valuation_eq v
  refine ⟨i, ⟨_, getElem?_assignments_eq_some_iff.mpr ⟨hi, rfl⟩, hspells.mpr hv⟩, ?_⟩
  rintro j ⟨a, ha, hva⟩
  obtain ⟨hj, rfl⟩ := getElem?_assignments_eq_some_iff.mp ha
  exact eq_of_valuation_eq hj hi fun c hc => (hspells.mp hva c hc).trans (hv c hc).symm

theorem assignmentCount_pos : 0 < names.assignmentCount := Nat.two_pow_pos names.size

theorem head?_assignments : names.assignments.head? = some (names.assignment 0) := by
  rw [List.head?_eq_getElem?]
  exact getElem?_assignments_eq_some_iff.mpr ⟨names.assignmentCount_pos, rfl⟩

theorem getLast?_assignments :
    names.assignments.getLast? = some (names.assignment (names.assignmentCount - 1)) := by
  have hpos := names.assignmentCount_pos
  rw [List.getLast?_eq_getElem?, length_assignments]
  exact getElem?_assignments_eq_some_iff.mpr ⟨by omega, rfl⟩

/-- The number without digits spells true throughout. -/
theorem valuation_zero (c : Char) : names.valuation 0 c = true := by
  rw [valuation, Nat.zero_testBit]
  rfl

/-- The largest number spells false throughout. -/
theorem valuation_last {c : Char} (hc : c ∈ names) :
    names.valuation (names.assignmentCount - 1) c = false := by
  obtain ⟨k, hk⟩ := List.getElem?_of_mem hc
  have hlt : k < names.size := (List.getElem?_eq_some_iff.mp hk).1
  have hdigit : (names.assignmentCount - 1).testBit (names.size - 1 - k) = true :=
    (Nat.testBit_two_pow_sub_one names.size _).trans (decide_eq_true (by omega))
  rw [valuation_of_getElem? _ hk, hdigit]
  rfl

/-! ### Machine words -/

/-- What is left of a word that is shifted to the right and masked is a digit of it. -/
theorem shiftRight_and_one_eq_zero {i k : Nat} (hi : i < Nat.pow 2 64) (hk : k < 64) :
    (UInt64.ofNat i >>> UInt64.ofNat k &&& 1 == 0) = !i.testBit k := by
  have hshift : (UInt64.ofNat i >>> UInt64.ofNat k &&& 1).toNat = (i >>> k) % 2 := by
    have hi' : i % 2 ^ 64 = i := Nat.mod_eq_of_lt hi
    have hk' : k % 2 ^ 64 % 64 = k := by omega
    rw [UInt64.toNat_and, UInt64.toNat_shiftRight, UInt64.toNat_ofNat', UInt64.toNat_ofNat', hi', hk',
      UInt64.toNat_one, Nat.and_one_is_mod]
  rw [Bool.eq_iff_iff, beq_iff_eq, ← UInt64.toNat_inj, hshift, UInt64.toNat_zero,
    Nat.testBit_eq_decide_div_mod_eq, Nat.shiftRight_eq_div_pow]
  simp

/-- **The list, computed with machine words.** -/
theorem words_assignments (h : names.size < 64) :
    ((1 : UInt64) <<< UInt64.ofNat names.size).toNat = names.assignments.length ∧
      ∀ i a, names.assignments[i]? = some a → ∀ j b, a.values[j]? = some b →
        b = (UInt64.ofNat i >>> UInt64.ofNat (names.size - j - 1) &&& 1 == 0) := by
  have hcount : names.assignmentCount < Nat.pow 2 64 := Nat.pow_lt_pow_right (by decide) h
  constructor
  · have hsize : names.size % 2 ^ 64 % 64 = names.size := by omega
    rw [length_assignments, UInt64.toNat_shiftLeft, UInt64.toNat_ofNat', UInt64.toNat_one, hsize,
      Nat.one_shiftLeft]
    exact Nat.mod_eq_of_lt hcount
  · intro i a ha j b hb
    obtain ⟨hi, rfl⟩ := getElem?_assignments_eq_some_iff.mp ha
    rw [values_assignment, List.getElem?_map, Option.map_eq_some_iff] at hb
    obtain ⟨c, hc, rfl⟩ := hb
    rw [valuation_of_getElem? i hc, shiftRight_and_one_eq_zero (Nat.lt_trans hi hcount) (by omega),
      Nat.sub_right_comm]

end Listing

end Names

/-- What a fresh cursor has left is the whole list. -/
theorem Cursor.takeRest_start (names : Names) :
    (Cursor.start names).takeRest.1 = names.assignments := by
  rw [takeRest, remaining, Names.assignments, List.range_eq_range']
  rfl

/-- **The assignments of the characters of a list are listed completely, once each, and in
order**, and what the list of them is depends only on which characters these are. -/
theorem enumerates_assignments (cs : List Char) :
    Enumerates cs (Names.ofList cs).assignments ∧
      (Cursor.start (.ofList cs)).takeRest.1 = (Names.ofList cs).assignments ∧
      ∀ ds : List Char, (∀ c, c ∈ ds ↔ c ∈ cs) →
        (Names.ofList ds).assignments = (Names.ofList cs).assignments := by
  refine ⟨?_, Cursor.takeRest_start _, fun ds h => ?_⟩
  · exact {
      length_eq := Names.length_assignments_ofList cs
      ascending := by
        intro a ha
        rw [Names.names_of_mem_assignments ha]
        exact (Names.ofList cs).ascending
      mem_names := by
        intro a ha c
        rw [Names.names_of_mem_assignments ha]
        exact Names.mem_ofList
      once := Names.existsUnique_assignment _
      descending := Names.pairwise_comesAfter _
      first := by
        refine ⟨_, Names.head?_assignments _, ?_⟩
        rw [Names.values_assignment, List.forall_mem_map]
        exact fun c _ => Names.valuation_zero _ c
      last := by
        refine ⟨_, Names.getLast?_assignments _, ?_⟩
        rw [Names.values_assignment, List.forall_mem_map]
        exact fun c hc => Names.valuation_last _ hc
      words := by
        rw [← Names.size_ofList]
        exact Names.words_assignments _ }
  · have hnames : Names.ofList ds = Names.ofList cs := by
      refine Names.eq_of_mem_iff fun c => ?_
      rw [Names.mem_ofList, Names.mem_ofList, h]
    rw [hnames]

/-- Two characters, of which one comes twice, in either order. -/
theorem enumerates_assignments_of_repeated :
    let cs := ['Ω', 'A', 'Ω']
    let all := (Names.ofList cs).assignments
    Enumerates cs all ∧ (∀ c, c ∈ ['A', 'Ω'] ↔ c ∈ cs) ∧
      (Names.ofList ['A', 'Ω']).assignments = all ∧
      all.map (·.toList) = [[('A', true), ('Ω', true)], [('A', true), ('Ω', false)],
        [('A', false), ('Ω', true)], [('A', false), ('Ω', false)]] := by
  intro cs all
  obtain ⟨henumerates, -, hsame⟩ := enumerates_assignments cs
  have hmem : ∀ c, c ∈ ['A', 'Ω'] ↔ c ∈ cs := by
    intro c
    simp only [cs, List.mem_cons, List.not_mem_nil, or_false]
    constructor
    · rintro (rfl | rfl)
      · exact .inr (.inl rfl)
      · exact .inl rfl
    · rintro (rfl | rfl | rfl)
      · exact .inr rfl
      · exact .inl rfl
      · exact .inr rfl
  exact ⟨henumerates, hmem, hsame _ hmem, by decide⟩

end TruthTables
