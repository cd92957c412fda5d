import TruthTables.Proofs.Assignment.Listing

/-!
# Cursors as places in the list of all assignments

A cursor does not hold the list that it goes through.  It computes each assignment when it is
asked for, and passes over any number of them in one jump.  Still, a session with it is the same as
one with the whole list and two places in it, one for the cursor and one for the copy put aside.

That a session and the two places agree is kept by each request (`Session.step_places`), and so
by any number of them (`Session.run_eq`, `Session.places_after`).  A jump goes where going on one
by one leads (`Cursor.skip_eq_next`).  Going on stops at the end of the list, and therefore no jump
leads beyond it, however far it is.

## Main definitions

* `Places` — two places in a list; `Places.step` and `Places.run` answer requests with them.
* `Session.after s rs` — the session `s` after the requests `rs`.
* `Cursor.nextTimes n c` — the cursor `c` after handing out `n` assignments one by one.
* `Session.Follows s p all rs` — the session `s` goes through the requests `rs` as the places `p`
  in the list `all` do.

## Main results

* `Cursor.skip_eq_next` — **a jump is as good as going on one by one.**
* `Session.step_places` — a request moves a session and its places alike.
* `session_follows` — **a session with a cursor goes through the list of all assignments.**
-/

namespace TruthTables

/-! ### Places in a list -/

/-- Two places in a list, each told by the number of members before it. -/
structure Places where
  /-- The place of the cursor. -/
  cursor : Nat
  /-- The place that was put aside. -/
  saved : Nat

namespace Places

/-- Before the first member of a list, the copy as well. -/
def start : Places := ⟨0, 0⟩

/-- Answers one request about the list `all`. -/
def step (all : List Assignment) (p : Places) : Request → Answer × Places
  | .next =>
    match all[p.cursor]? with
    | some a => (.assignment (some a), ⟨p.cursor + 1, p.saved⟩)
    | none => (.assignment none, p)
  | .skip n =>
    match all[p.cursor + n]? with
    | some a => (.assignment (some a), ⟨p.cursor + n + 1, p.saved⟩)
    | none => (.assignment none, ⟨all.length, p.saved⟩)
  | .length => (.length (all.length - p.cursor), p)
  | .save => (.done, ⟨p.cursor, p.cursor⟩)
  | .restore => (.done, ⟨p.saved, p.saved⟩)
  | .rest => (.assignments (all.drop p.cursor), ⟨all.length, p.saved⟩)

/-- Answers a list of requests: each answer, with the number of members left after it. -/
def run (all : List Assignment) (p : Places) : List Request → List (Answer × Nat)
  | [] => []
  | r :: rs =>
    let next := (p.step all r).2
    ((p.step all r).1, all.length - next.cursor) :: run all next rs

/-- The places after some requests. -/
def after (all : List Assignment) (p : Places) (rs : List Request) : Places :=
  rs.foldl (fun p r => (p.step all r).2) p

end Places

/-! ### Cursors -/

namespace Cursor

variable (c : Cursor)

theorem getElem?_assignments_of_lt {i : Nat} (h : i < c.names.assignmentCount) :
    c.names.assignments[i]? = some (c.names.assignment i) :=
  Names.getElem?_assignments_eq_some_iff.mpr ⟨h, rfl⟩

theorem getElem?_assignments_of_not_lt {i : Nat} (h : ¬ i < c.names.assignmentCount) :
    c.names.assignments[i]? = none :=
  List.getElem?_eq_none (by rw [Names.length_assignments]; omega)

section Next

variable {c}

theorem next_of_lt (h : c.passed < c.names.assignmentCount) :
    c.next = (some (c.names.assignment c.passed), ⟨c.names, c.passed + 1, h⟩) := dif_pos h

theorem next_of_not_lt (h : ¬ c.passed < c.names.assignmentCount) : c.next = (none, c) := dif_neg h

theorem skip_of_lt {n : Nat} (h : c.passed + n < c.names.assignmentCount) :
    c.skip n = (some (c.names.assignment (c.passed + n)), ⟨c.names, c.passed + n + 1, h⟩) :=
  dif_pos h

theorem skip_of_not_lt {n : Nat} (h : ¬ c.passed + n < c.names.assignmentCount) :
    c.skip n = (none, c.exhausted) := dif_neg h

theorem exhausted_of_not_lt (h : ¬ c.passed < c.names.assignmentCount) : c.exhausted = c :=
  Cursor.ext rfl (Nat.le_antisymm (Nat.not_lt.mp h) c.passed_le)

end Next

/-- What has been handed out or passed over, and what is left, is all. -/
theorem passed_add_remaining : c.passed + c.remaining = c.names.assignments.length := by
  rw [Names.length_assignments]
  exact Nat.add_sub_cancel' c.passed_le

theorem takeRest_fst : c.takeRest.1 = c.names.assignments.drop c.passed := by
  have hcount : c.names.assignmentCount = c.passed + c.remaining := by
    rw [passed_add_remaining, Names.length_assignments]
  rw [takeRest, Names.assignments, ← List.map_drop, List.range_eq_range', hcount, List.drop_range',
    Nat.add_sub_cancel_left, Nat.zero_add, Nat.mul_one]

/-- The cursor after handing out some assignments one by one. -/
def nextTimes : Nat → Cursor → Cursor
  | 0, c => c
  | n + 1, c => nextTimes n c.next.2

@[simp] theorem nextTimes_zero : nextTimes 0 c = c := rfl

@[simp] theorem nextTimes_succ (n : Nat) : nextTimes (n + 1) c = nextTimes n c.next.2 := rfl

/-- To pass over one assignment more is to hand it out first. -/
theorem skip_succ (n : Nat) : c.skip (n + 1) = c.next.2.skip n := by
  by_cases h : c.passed < c.names.assignmentCount
  · have hplace : c.passed + 1 + n = c.passed + (n + 1) := by omega
    simp only [next_of_lt h, skip, hplace]
    rfl
  · -- there is nothing left to pass over
    have hfar : ∀ m, ¬ c.passed + m < c.names.assignmentCount := fun m => by omega
    rw [next_of_not_lt h, skip_of_not_lt (hfar _), skip_of_not_lt (hfar _)]

/-- **A jump is as good as going on one by one.** -/
theorem skip_eq_next (n : Nat) : c.skip n = (c.nextTimes n).next := by
  induction n generalizing c with
  | zero => exact c.skip_zero
  | succ n ih => rw [skip_succ, nextTimes_succ, ih]

/-- All that is left is the next assignment and all that is left after it. -/
theorem takeRest_eq_next :
    c.takeRest =
      match c.next with
      | (some a, d) => (a :: d.takeRest.1, d.takeRest.2)
      | (none, d) => ([], d) := by
  by_cases h : c.passed < c.names.assignmentCount
  · obtain ⟨hlt, hget⟩ := List.getElem?_eq_some_iff.mp (c.getElem?_assignments_of_lt h)
    simp only [next_of_lt h]
    refine Prod.ext ?_ rfl
    rw [takeRest_fst, List.drop_eq_getElem_cons hlt, hget, takeRest_fst]
  · simp only [next_of_not_lt h]
    refine Prod.ext ?_ (exhausted_of_not_lt h)
    rw [takeRest_fst, List.drop_of_length_le (by rw [Names.length_assignments]; omega)]

end Cursor

/-! ### Sessions -/

namespace Session

/-- The session after some requests. -/
def after (s : Session) (rs : List Request) : Session := rs.foldl (fun s r => (s.step r).2) s

/-- Where the cursor of a session stands, and where the copy does. -/
def places (s : Session) : Places := ⟨s.cursor.passed, s.saved.passed⟩

/-- Both cursors of a session go through the assignments of the same variables. -/
structure IsOver (names : Names) (s : Session) : Prop where
  /-- The cursor in use. -/
  cursor : s.cursor.names = names
  /-- The copy. -/
  saved : s.saved.names = names

/-- **A request moves a session and its places alike**, and has the same answer for both. -/
theorem step_places {names : Names} {s : Session} (h : s.IsOver names) (r : Request) :
    s.places.step names.assignments r = ((s.step r).1, (s.step r).2.places) := by
  obtain ⟨c, d⟩ := s
  obtain ⟨rfl, -⟩ := h
  cases r with
  | next =>
    by_cases hlt : c.passed < c.names.assignmentCount
    · simp only [places, Places.step, step, Cursor.next_of_lt hlt, c.getElem?_assignments_of_lt hlt]
    · simp only [places, Places.step, step, Cursor.next_of_not_lt hlt,
        c.getElem?_assignments_of_not_lt hlt]
  | skip n =>
    by_cases hlt : c.passed + n < c.names.assignmentCount
    · simp only [places, Places.step, step, Cursor.skip_of_lt hlt, c.getElem?_assignments_of_lt hlt]
    · simp only [places, Places.step, step, Cursor.skip_of_not_lt hlt,
        c.getElem?_assignments_of_not_lt hlt, Names.length_assignments]
      rfl
  | length => simp only [places, Places.step, step, Names.length_assignments, Cursor.remaining]
  | save => rfl
  | restore => rfl
  | rest =>
    simp only [places, Places.step, step, c.takeRest_fst, Names.length_assignments]
    rfl

theorem IsOver.step {names : Names} {s : Session} (h : s.IsOver names) (r : Request) :
    (s.step r).2.IsOver names := by
  obtain ⟨hcursor, hsaved⟩ := h
  cases r with
  | next =>
    refine ⟨?_, hsaved⟩
    show s.cursor.next.2.names = names
    by_cases hlt : s.cursor.passed < s.cursor.names.assignmentCount
    · rw [Cursor.next_of_lt hlt, hcursor]
    · rw [Cursor.next_of_not_lt hlt, hcursor]
  | skip n =>
    refine ⟨?_, hsaved⟩
    show (s.cursor.skip n).2.names = names
    by_cases hlt : s.cursor.passed + n < s.cursor.names.assignmentCount
    · rw [Cursor.skip_of_lt hlt, hcursor]
    · rw [Cursor.skip_of_not_lt hlt, Cursor.exhausted, hcursor]
  | length => exact ⟨hcursor, hsaved⟩
  | save => exact ⟨hcursor, hcursor⟩
  | restore => exact ⟨hsaved, hsaved⟩
  | rest => exact ⟨hcursor, hsaved⟩

section Run

variable {names : Names} {s : Session} (h : s.IsOver names)

include h

theorem IsOver.cursor_le : s.places.cursor ≤ names.assignments.length := by
  rw [Names.length_assignments, ← h.cursor]
  exact s.cursor.passed_le

theorem IsOver.saved_le : s.places.saved ≤ names.assignments.length := by
  rw [Names.length_assignments, ← h.saved]
  exact s.saved.passed_le

theorem IsOver.add_remaining : s.places.cursor + s.cursor.remaining = names.assignments.length := by
  rw [← h.cursor]
  exact s.cursor.passed_add_remaining

/-- **Any number of requests** have the same answers for a session and its places. -/
theorem run_eq (rs : List Request) : s.run rs = s.places.run names.assignments rs := by
  induction rs generalizing s with
  | nil => rfl
  | cons r rs ih =>
    have hleft : names.assignments.length - (s.step r).2.places.cursor =
        (s.step r).2.cursor.remaining := by
      rw [← (h.step r).add_remaining, Nat.add_sub_cancel_left]
    rw [run_cons, Places.run, step_places h, ih (h.step r), hleft]

/-- **Any number of requests** move a session and its places alike. -/
theorem places_after (rs : List Request) :
    (s.after rs).IsOver names ∧ (s.after rs).places = s.places.after names.assignments rs := by
  induction rs generalizing s with
  | nil => exact ⟨h, rfl⟩
  | cons r rs ih =>
    obtain ⟨hover, hplaces⟩ := ih (h.step r)
    refine ⟨hover, hplaces.trans ?_⟩
    rw [Places.after, Places.after, List.foldl_cons, step_places h]

end Run

/-- A session goes through some requests as two places in the list `all` do. -/
structure Follows (s : Session) (p : Places) (all : List Assignment) (rs : List Request) :
    Prop where
  /-- The answers are the same, and so is the number of assignments left after each. -/
  run_eq : s.run rs = p.run all rs
  /-- The cursor and its copy stand where the places are. -/
  places_eq : (s.after rs).places = p.after all rs
  /-- The cursor stands after the last assignment at the latest. -/
  cursor_le : (p.after all rs).cursor ≤ all.length
  /-- So does the copy. -/
  saved_le : (p.after all rs).saved ≤ all.length
  /-- What the cursor has passed and what it has left is all. -/
  add_remaining : (p.after all rs).cursor + (s.after rs).cursor.remaining = all.length
  /-- To pass over some assignments and hand out the next is to hand out so many and one more. -/
  skip_eq : ∀ n, (s.after rs).cursor.skip n = ((s.after rs).cursor.nextTimes n).next
  /-- To hand out what is left is to hand out the next as long as there is one. -/
  rest_eq : (s.after rs).cursor.takeRest =
    match (s.after rs).cursor.next with
    | (some a, d) => (a :: d.takeRest.1, d.takeRest.2)
    | (none, d) => ([], d)

end Session

/-- **A session with a cursor goes through the list of all assignments**, whatever it is asked and
in which order. -/
theorem session_follows (cs : List Char) (rs : List Request) :
    let all := (Names.ofList cs).assignments
    all.length = Nat.pow 2 cs.eraseDups.length ∧
      (Session.start (.ofList cs)).Follows .start all rs := by
  have hstart : (Session.start (.ofList cs)).IsOver (.ofList cs) := ⟨rfl, rfl⟩
  obtain ⟨hover, hplaces⟩ := Session.places_after hstart rs
  exact ⟨Names.length_assignments_ofList cs, {
    run_eq := Session.run_eq hstart rs
    places_eq := hplaces
    cursor_le := by
      have hle := hover.cursor_le
      rwa [hplaces] at hle
    saved_le := by
      have hle := hover.saved_le
      rwa [hplaces] at hle
    add_remaining := by
      have hall := hover.add_remaining
      rwa [hplaces] at hall
    skip_eq := Cursor.skip_eq_next _
    rest_eq := Cursor.takeRest_eq_next _ }⟩

/-- A jump to the end and one beyond it. -/
example : (Session.start (.ofList ['A'])).run [.skip 1, .skip 5, .restore, .rest] =
    let a (b : Bool) := (Names.ofList ['A']).assignment b.toNat
    [(.assignment (some (a true)), 0), (.assignment none, 0), (.done, 2),
      (.assignments [a false, a true], 0)] := by decide

end TruthTables
