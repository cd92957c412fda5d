import TruthTables.Proofs.Formula.Stepping
import TruthTables.Proofs.Formula.Subformulas
import TruthTables.Proofs.Token.Renaming

/-!
# Formulas with other letters

Nothing in a formula depends on the names of its variables: with the names exchanged it
is built in the same way, and has the truth value that it had if the new names get the
values of the old ones.  Its written form has the letters exchanged as well.

Reading takes no notice of names either.  A reader does not look at the name of a
variable, and puts it into the formula; nor does it look at an offset, but for putting
it into an error.  So when tokens have other names and offsets, each step is the step
that it was with these names and offsets (`Reader.step_rename`), and so is the whole run
(`Reader.read_rename`).

## Main definitions

* `Formula.rename ρ f` — the formula `f` with other names for the variables.
* `Reading.rename`, `Reader.rename`, `Parsed.rename` — the same for what has been read.
* `GrammarError.map ρ φ e`, `ParseError.map ρ φ e` — the error `e` with other names and
  offsets.

## Main results

* `Formula.truth_rename`, `Formula.text_rename`, `Formula.postorder_rename` — what
  renaming does to a formula.
* `parseTokens_map` — **reading tokens with other names and offsets.**
* `parse_of_marks` — so is reading a text with other letters in other places.
-/

namespace TruthTables

namespace Formula

/-- A formula with other names for its variables. -/
def rename (ρ : Char → Char) : Formula → Formula
  | atom c => atom (ρ c)
  | neg f => neg (rename ρ f)
  | bin op l r => bin op (rename ρ l) (rename ρ r)

@[simp] theorem rename_atom (ρ : Char → Char) (c : Char) : rename ρ (atom c) = atom (ρ c) := rfl

@[simp] theorem rename_neg (ρ : Char → Char) (f : Formula) :
    rename ρ (neg f) = neg (rename ρ f) := rfl

@[simp] theorem rename_bin (ρ : Char → Char) (op : Connective) (l r : Formula) :
    rename ρ (bin op l r) = bin op (rename ρ l) (rename ρ r) := rfl

@[simp] theorem rename_id (f : Formula) : f.rename id = f := by
  induction f with
  | atom c => rfl
  | neg f ih => rw [rename_neg, ih]
  | bin op l r ihl ihr => rw [rename_bin, ihl, ihr]

/-- Names that are told apart still tell formulas apart. -/
theorem rename_injective {ρ : Char → Char} (hρ : Function.Injective ρ) :
    Function.Injective (rename ρ) := by
  intro f
  induction f with
  | atom c =>
    intro g h
    cases g with
    | atom d => rw [hρ (atom.inj h)]
    | neg g => cases h
    | bin op l r => cases h
  | neg f ih =>
    intro g h
    cases g with
    | atom d => cases h
    | neg g => rw [ih (neg.inj h)]
    | bin op l r => cases h
  | bin op l r ihl ihr =>
    intro g h
    cases g with
    | atom d => cases h
    | neg g => cases h
    | bin op' l' r' =>
      obtain ⟨rfl, hl, hr⟩ := bin.inj h
      rw [ihl hl, ihr hr]

/-! ### What renaming does to a formula -/

theorem letters_rename (ρ : Char → Char) (f : Formula) :
    (f.rename ρ).letters = f.letters.map ρ := by
  induction f with
  | atom c => rfl
  | neg f ih => exact ih
  | bin op l r ihl ihr => rw [rename_bin, letters_bin, ihl, ihr, letters_bin, List.map_append]

theorem postorder_rename (ρ : Char → Char) (f : Formula) :
    (f.rename ρ).postorder = f.postorder.map (rename ρ) := by
  induction f with
  | atom c => rfl
  | neg f ih =>
    rw [rename_neg, postorder_neg, ih, postorder_neg, List.map_append]
    rfl
  | bin op l r ihl ihr =>
    rw [rename_bin, postorder_bin, ihl, ihr, postorder_bin, List.map_append, List.map_append]
    rfl

@[simp] theorem isCompound_rename (ρ : Char → Char) (f : Formula) :
    (f.rename ρ).isCompound = f.isCompound := by
  cases f <;> rfl

theorem level_rename (ρ : Char → Char) (f : Formula) : (f.rename ρ).level = f.level := by
  cases f <;> rfl

theorem followsPrecedence_rename {ρ : Char → Char} {f : Formula} :
    (f.rename ρ).FollowsPrecedence ↔ f.FollowsPrecedence := by
  induction f with
  | atom c => exact Iff.rfl
  | neg f ih => rw [rename_neg, followsPrecedence_neg, followsPrecedence_neg, level_rename, ih]
  | bin op l r ihl ihr =>
    rw [rename_bin, followsPrecedence_bin, followsPrecedence_bin, level_rename, level_rename, ihl,
      ihr]

theorem isLettered_rename (p : Renaming) {f : Formula} (h : f.IsLettered) :
    (f.rename p).IsLettered := by
  intro c hc
  rw [letters_rename] at hc
  obtain ⟨d, hd, rfl⟩ := List.mem_map.mp hc
  exact p.letters d (h d hd)

/-- **Truth values follow the names.** -/
theorem truth_rename (ρ : Char → Char) (v : Char → Bool) (f : Formula) :
    (f.rename ρ).truth v = f.truth (v ∘ ρ) := by
  induction f with
  | atom c => rfl
  | neg f ih => rw [rename_neg, truth_neg, ih, truth_neg]
  | bin op l r ihl ihr => rw [rename_bin, truth_bin, ihl, ihr, truth_bin]

/-- **The written form** has its letters exchanged, and nothing else in it is a letter. -/
theorem text_rename (p : Renaming) (f : Formula) : (f.rename p).text = f.text.map p := by
  induction f with
  | atom c => rfl
  | neg f ih =>
    have hneg : p negationGlyph = negationGlyph := p.others _ (by decide)
    rw [rename_neg, text_neg, ih, text_neg, List.map_cons, hneg]
  | bin op l r ihl ihr =>
    have hspace : p ' ' = ' ' := p.others _ (by decide)
    have hop : p op.glyph = op.glyph := p.others _ (by cases op <;> decide)
    rw [rename_bin, text_bin, ihl, ihr, text_bin, List.map_append, List.map_cons, List.map_cons,
      List.map_cons, hspace, hop]

end Formula

/-! ### What has been read -/

/-- A reading with other names for the variables. -/
def Reading.rename (ρ : Char → Char) (x : Reading) : Reading :=
  ⟨x.formula.rename ρ, x.built.map (Formula.rename ρ)⟩

/-- What has been read from some tokens, with other names for the variables. -/
def Parsed.rename (ρ : Char → Char) (p : Parsed) : Parsed :=
  ⟨p.root.rename ρ, p.inventory.map (Formula.rename ρ)⟩

/-- An error with another name for the variable of its token, and with other offsets. -/
def GrammarError.map (ρ : Char → Char) (φ : Nat → Nat) : GrammarError → GrammarError
  | variableExpected offset => variableExpected (offset.map φ)
  | unexpected t offset => unexpected (t.map ρ φ) (φ offset)

namespace Reading

theorem negate_rename (ρ : Char → Char) : ∀ (n : Nat) (x : Reading),
    (x.rename ρ).negate n = (x.negate n).rename ρ := by
  intro n
  induction n with
  | zero => intro x; rfl
  | succ n ih => intro x; exact ih (node (.neg x.formula) x.built)

theorem joinTo_rename (ρ : Char → Char) (op : Connective) (w : Option Formula) (x : Reading) :
    (x.rename ρ).joinTo op (w.map (Formula.rename ρ)) = (x.joinTo op w).rename ρ := by
  cases w <;> rfl

end Reading

namespace Reader

/-- A reader with other names for the variables of what it has read. -/
def rename (ρ : Char → Char) : Reader → Reader
  | operand i d c n built =>
    operand (i.map (Formula.rename ρ)) (d.map (Formula.rename ρ)) (c.map (Formula.rename ρ)) n
      (built.map (Formula.rename ρ))
  | operator i d x => operator (i.map (Formula.rename ρ)) (d.map (Formula.rename ρ)) (x.rename ρ)

variable (ρ : Char → Char) (φ : Nat → Nat)

/-- **One step**, on a token with another name and another offset. -/
theorem step_rename (r : Reader) (t : Token) :
    (r.rename ρ).step (t.map ρ φ) = ((r.step t).map (rename ρ)).mapError (.map ρ φ) := by
  obtain ⟨s, o⟩ := t
  cases r with
  | operand i d c n built =>
    cases s with
    | atom a =>
      have hjoin := Reading.joinTo_rename ρ .and c ((Reading.node (.atom a) built).negate n)
      rw [← Reading.negate_rename] at hjoin
      exact congrArg (fun x => Except.ok (operator _ _ x)) hjoin
    | neg => rfl
    | op p => rfl
  | operator i d x =>
    cases s with
    | atom a => rfl
    | neg => rfl
    | op p =>
      -- the operands that wait are joined before or after, it is the same
      have hor := Reading.joinTo_rename ρ .or d x
      cases p with
      | and => rfl
      | or =>
        simp only [rename, Token.map, Symbol.rename, step, hor]
        rfl
      | implies =>
        have himplies := Reading.joinTo_rename ρ .implies i (x.joinTo .or d)
        simp only [rename, Token.map, Symbol.rename, step, hor, himplies]
        rfl

theorem finish_rename (r : Reader) :
    (r.rename ρ).finish = (r.finish.map (Reading.rename ρ)).mapError (.map ρ φ) := by
  cases r with
  | operand i d c n built => rfl
  | operator i d x =>
    simp only [rename, finish, Reading.joinTo_rename]
    rfl

/-- **A whole run**, on tokens with other names and other offsets. -/
theorem read_rename : ∀ (ts : List Token) (r : Reader),
    (r.rename ρ).read (ts.map (Token.map ρ φ)) =
      ((r.read ts).map (Reading.rename ρ)).mapError (.map ρ φ) := by
  intro ts
  induction ts with
  | nil => intro r; exact finish_rename ρ φ r
  | cons t ts ih =>
    intro r
    rw [List.map_cons, read_cons, read_cons, step_rename]
    cases hstep : r.step t with
    | error e => rfl
    | ok r' => exact ih r'

end Reader

/-- **Reading tokens with other names and offsets** gives the formula with these names,
or the error with these names and offsets. -/
theorem parseTokens_map (ρ : Char → Char) (φ : Nat → Nat) (ts : List Token) :
    parseTokens (ts.map (Token.map ρ φ)) =
      ((parseTokens ts).map (Parsed.rename ρ)).mapError (.map ρ φ) := by
  have hstart : Reader.start.rename ρ = Reader.start := rfl
  rw [parseTokens_eq_read, parseTokens_eq_read, ← hstart, Reader.read_rename, hstart]
  cases Reader.start.read ts with
  | error e => rfl
  | ok x =>
    show Except.ok (Parsed.mk (x.formula.rename ρ) (x.built.map (Formula.rename ρ)).reverse)
      = .ok ⟨x.formula.rename ρ, x.built.reverse.map (Formula.rename ρ)⟩
    rw [List.map_reverse]

/-! ### Texts -/

/-- An error of reading a text, with another name for the variable of its token, and with
another offset. -/
def ParseError.map (ρ : Char → Char) (φ : Nat → Nat) : ParseError → ParseError
  | lexical e => lexical (e.map φ)
  | grammar e => grammar (e.map ρ φ)

@[simp] theorem Parsed.rename_id (p : Parsed) : p.rename id = p := by
  have hid : Formula.rename id = id := funext Formula.rename_id
  simp [rename, hid]

/-- **Reading a text with other letters in other places** gives the formula with these
letters, or the error with these letters and places. -/
theorem parse_of_marks {p : Renaming} {φ : Nat → Nat} {s t : Text}
    (h : t.marks = s.marks.map (Prod.map p φ)) :
    parse t = ((parse s).map (Parsed.rename p)).mapError (.map p φ) := by
  have hscan := scan_of_marks h
  cases hs : scan s with
  | error e =>
    rw [hs] at hscan
    rw [parse, parse, hscan, hs]
    rfl
  | ok ts =>
    have ht : scan t = .ok (ts.map (Token.map p φ)) := by
      rw [hscan, hs]
      rfl
    simp only [parse, hs, ht, parseTokens_map]
    cases parseTokens ts <;> rfl

end TruthTables
