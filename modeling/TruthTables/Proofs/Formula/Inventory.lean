import TruthTables.Proofs.Formula.Reader
import TruthTables.Proofs.Formula.Subformulas

/-!
# What reading records

Reading records every node at the moment when it builds it.  The list of all these
nodes is that of the sub-formulas of what is read: nothing is left out, nothing comes
twice, and each node comes after those below it.

While reading is under way, there is no formula yet to compare with.  But at any
moment there are complete operands, some of which wait to be joined to one that is
still to come.  The nodes recorded are exactly theirs: operand after operand in the
order of the tokens, and each operand in post-order (`Reader.Recorded`).  A connective
may join two operands into one, but these are then the last two, so that their nodes
stand next to each other already and the new node belongs at the end.

## Main definitions

* `Formula.placesIn f g` — the number of places in `g` at which `f` stands.
* `Reading.EndsIn gs x` — the nodes recorded are those of `gs` and of `x`.
* `Reader.Recorded r` — the nodes recorded are those of the complete operands of `r`.

## Main results

* `Formula.count_postorder` — a sub-formula is listed once for each of its places.
* `Reader.recorded_step`, `Reader.read_recorded` — **what is recorded at any moment.**
* `inventory_lists_every_node` — **what is recorded in the end.**
-/

namespace TruthTables

namespace Formula

/-- The number of places in a formula at which `f` stands. -/
def placesIn (f : Formula) : Formula → Nat
  | atom c => if atom c = f then 1 else 0
  | neg g => placesIn f g + if neg g = f then 1 else 0
  | bin op l r => placesIn f l + placesIn f r + if bin op l r = f then 1 else 0

/-- **A sub-formula is listed once for each of its places.** -/
theorem count_postorder (f g : Formula) : g.postorder.count f = f.placesIn g := by
  induction g with
  | atom c => simp [placesIn, List.count_singleton]
  | neg g ih => simp [placesIn, List.count_singleton, ih]
  | bin op l r ihl ihr => simp [placesIn, List.count_singleton, ihl, ihr, Nat.add_assoc]

end Formula

/-! ### The nodes of complete operands -/

namespace Reading

/-- The nodes recorded are those of the formulas in `gs`, one after the other, and
then those of the formula at hand. -/
def EndsIn (gs : List Formula) (x : Reading) : Prop :=
  x.built.reverse = (gs ++ [x.formula]).flatMap Formula.postorder

theorem endsIn_atom {gs built : List Formula} (h : built.reverse = gs.flatMap Formula.postorder)
    (a : Char) : (node (.atom a) built).EndsIn gs := by
  rw [EndsIn, node, List.reverse_cons, h, List.flatMap_append]
  rfl

theorem endsIn_negate {gs : List Formula} : ∀ (n : Nat) (x : Reading), x.EndsIn gs →
    (x.negate n).EndsIn gs := by
  intro n
  induction n with
  | zero => intro x h; exact h
  | succ n ih =>
    intro x h
    refine ih (node (.neg x.formula) x.built) ?_
    rw [EndsIn, List.flatMap_append] at h
    rw [EndsIn, node, List.reverse_cons, h, List.flatMap_append, List.append_assoc]
    simp

/-- Joining the last two operands puts the new node after those of both. -/
theorem endsIn_joinTo {gs : List Formula} {op : Connective} {w : Option Formula} {x : Reading}
    (h : x.EndsIn (gs ++ w.toList)) : (x.joinTo op w).EndsIn gs := by
  cases w with
  | none => simpa using h
  | some l =>
    rw [EndsIn, Option.toList_some, List.flatMap_append, List.flatMap_append] at h
    rw [joinTo_some, EndsIn, node, List.reverse_cons, h, List.flatMap_append]
    simp

end Reading

/-! ### Reading -/

namespace Reader

/-- The nodes recorded are those of the complete operands, in the order in which these
were read. -/
def Recorded : Reader → Prop
  | operand i d c _ built =>
    built.reverse = (i.toList ++ d.toList ++ c.toList).flatMap Formula.postorder
  | operator i d x => x.EndsIn (i.toList ++ d.toList)

/-- **Every step keeps the record** in line with the operands. -/
theorem recorded_step {r r' : Reader} {t : Token} (hr : r.Recorded) (h : r.step t = .ok r') :
    r'.Recorded := by
  have hsteps := steps_of_step h
  generalize t.symbol = s at hsteps
  cases hsteps with
  | atom i d c n built a =>
    exact Reading.endsIn_joinTo (Reading.endsIn_negate n _ (Reading.endsIn_atom hr a))
  | neg i d c n built => exact hr
  | and i d x => exact hr
  | or i d x =>
    have hor : (x.joinTo .or d).EndsIn i.toList := Reading.endsIn_joinTo hr
    simpa [Recorded, Reading.EndsIn] using hor
  | implies i d x =>
    -- nothing waits before an operand of an implication
    have himplies : ((x.joinTo .or d).joinTo .implies i).EndsIn [] :=
      Reading.endsIn_joinTo (Reading.endsIn_joinTo hr)
    simpa [Recorded, Reading.EndsIn] using himplies

theorem endsIn_of_finish {r : Reader} {x : Reading} (hr : r.Recorded) (h : r.finish = .ok x) :
    x.EndsIn [] := by
  cases r with
  | operand i d c n built => cases h
  | operator i d y =>
    obtain rfl := Except.ok.inj h
    exact Reading.endsIn_joinTo (Reading.endsIn_joinTo hr)

/-- **What is recorded at the end of a run**: the nodes of the formula that is read. -/
theorem read_recorded : ∀ (ts : List Token) (r : Reader) (x : Reading), r.Recorded →
    r.read ts = .ok x → x.EndsIn [] := by
  intro ts
  induction ts with
  | nil => intro r x hr h; exact endsIn_of_finish hr h
  | cons t ts ih =>
    intro r x hr h
    rw [read_cons] at h
    cases hstep : r.step t with
    | error e =>
      rw [hstep] at h
      cases h
    | ok r' =>
      rw [hstep] at h
      exact ih r' x (recorded_step hr hstep) h

end Reader

/-! ### What is read from tokens -/

theorem inventory_eq_postorder {ts : List Token} {p : Parsed} (h : parseTokens ts = .ok p) :
    p.inventory = p.root.postorder := by
  rw [parseTokens_eq_read] at h
  cases hread : Reader.start.read ts with
  | error e =>
    rw [hread] at h
    cases h
  | ok x =>
    rw [hread] at h
    obtain rfl := Except.ok.inj h
    have hends := Reader.read_recorded ts .start x rfl hread
    simpa [Reading.EndsIn] using hends

/-- **Reading records every node of what it reads**, in post-order: a node for each
token, the formula itself last, and a sub-formula once for each place where it stands.
Nothing of this depends on offsets. -/
theorem inventory_lists_every_node {ts : List Token} {p : Parsed} (h : parseTokens ts = .ok p) :
    p.inventory = p.root.postorder ∧ p.inventory.length = ts.length ∧
      p.inventory.getLast? = some p.root ∧
      (∀ f, p.inventory.count f = f.placesIn p.root) ∧
      ∀ us : List Token, us.map Token.symbol = ts.map Token.symbol → parseTokens us = .ok p := by
  obtain ⟨hprec, hsymbols⟩ := root_of_parseTokens h
  have hinventory := inventory_eq_postorder h
  refine ⟨hinventory, ?_, ?_, fun f => ?_, fun us hus => ?_⟩
  · rw [hinventory, Formula.length_postorder, Formula.nodeCount_eq_length_symbols, hsymbols,
      List.length_map]
  · obtain ⟨gs, hgs, -⟩ := p.root.exists_postorder_eq_append
    rw [hinventory, hgs, List.getLast?_concat]
  · rw [hinventory, Formula.count_postorder]
  · rw [parseTokens_of_followsPrecedence hprec (hus.trans hsymbols.symm), ← hinventory]

/-- A negation that stands at two places is recorded twice, and where its tokens were
read makes no difference. -/
theorem inventory_lists_every_node_repeated_negation :
    let ts : List Token := [⟨.atom 'B', 4⟩, ⟨.op .or, 2⟩, ⟨.neg, 9⟩, ⟨.atom 'A', 9⟩,
      ⟨.op .and, 0⟩, ⟨.atom 'B', 1⟩, ⟨.op .implies, 6⟩, ⟨.neg, 7⟩, ⟨.atom 'A', 3⟩]
    let us : List Token := ts.map fun t => ⟨t.symbol, 5⟩
    ∃ p, parseTokens ts = .ok p ∧ p.inventory.length = 9 ∧
      p.inventory.count (.neg (.atom 'A')) = 2 ∧ p.inventory.getLast? = some p.root ∧
      parseTokens us = .ok p := by
  intro ts us
  obtain ⟨p, hp, hroot⟩ : ∃ p, parseTokens ts = .ok p ∧
      Formula.placesIn (.neg (.atom 'A')) p.root = 2 := by
    rw [parseTokens_eq_read]
    exact ⟨_, rfl, by decide⟩
  obtain ⟨-, hlength, hlast, hcount, hoffsets⟩ := inventory_lists_every_node hp
  exact ⟨p, hp, hlength, (hcount _).trans hroot, hlast, hoffsets us rfl⟩

end TruthTables
