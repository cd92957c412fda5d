import TruthTables.Token.Scanner
import TruthTables.Proofs.Token.Alphabet

/-!
# What a scan finds

A scan fails at the first character that is foreign to formulas.  If there is
none, its tokens are the symbols of the text, each with the place where it
stands, and white space leaves no trace but in the offsets.

## Main definitions

* `tokensFrom n t` — the symbols of `t` with their offsets, when the first
  character of `t` has the offset `n`.
* `foreignFrom n t` — the first foreign character of `t` with its offset.

## Main results

* `scan_eq_ok_iff` — **when a scan succeeds, and with which tokens.**
* `scan_eq_error_iff` — when it fails, and where.
* `map_symbol_of_scan` — the symbols of the tokens are those of the text.
* `countP_isOperator_filterMap` — operators are counted on the characters as well.
-/

namespace TruthTables

/-- The symbols of a text with their offsets, when its first character has the
offset `n`. -/
def tokensFrom : Nat → Text → List Token
  | _, [] => []
  | n, c :: t =>
    match symbolOf? c with
    | none => tokensFrom (n + 1) t
    | some s => ⟨s, n⟩ :: tokensFrom (n + 1) t

@[simp] theorem tokensFrom_nil (n : Nat) : tokensFrom n [] = [] := rfl

theorem tokensFrom_cons_none {n : Nat} {c : Char} {t : Text} (h : symbolOf? c = none) :
    tokensFrom n (c :: t) = tokensFrom (n + 1) t := by
  rw [tokensFrom, h]

theorem tokensFrom_cons_some {n : Nat} {c : Char} {t : Text} {s : Symbol}
    (h : symbolOf? c = some s) : tokensFrom n (c :: t) = ⟨s, n⟩ :: tokensFrom (n + 1) t := by
  rw [tokensFrom, h]

theorem map_symbol_tokensFrom : ∀ (t : Text) (n : Nat),
    (tokensFrom n t).map Token.symbol = t.filterMap symbolOf? := by
  intro t
  induction t with
  | nil => intro n; rfl
  | cons c t ih =>
    intro n
    cases h : symbolOf? c with
    | none => rw [tokensFrom_cons_none h, List.filterMap_cons_none h, ih]
    | some s => rw [tokensFrom_cons_some h, List.filterMap_cons_some h, List.map_cons, ih]

/-- A token has the offset of the character that it was read from. -/
theorem getElem?_of_mem_tokensFrom : ∀ (t : Text) (n : Nat), ∀ x ∈ tokensFrom n t,
    ∃ i c, x.offset = n + i ∧ t[i]? = some c ∧ symbolOf? c = some x.symbol := by
  intro t
  induction t with
  | nil =>
    intro n x hx
    cases hx
  | cons c t ih =>
    -- what is read from the tail stands one place further on
    have htail : ∀ (n : Nat), ∀ x ∈ tokensFrom (n + 1) t,
        ∃ i d, x.offset = n + i ∧ (c :: t)[i]? = some d ∧ symbolOf? d = some x.symbol := by
      intro n x hx
      obtain ⟨i, d, hoffset, hd, hsymbol⟩ := ih (n + 1) x hx
      exact ⟨i + 1, d, by omega, hd, hsymbol⟩
    intro n x hx
    cases hs : symbolOf? c with
    | none =>
      rw [tokensFrom_cons_none hs] at hx
      exact htail n x hx
    | some s =>
      rw [tokensFrom_cons_some hs] at hx
      rcases List.mem_cons.mp hx with rfl | hx
      · exact ⟨0, c, rfl, rfl, hs⟩
      · exact htail n x hx

/-- The first foreign character of a text with its offset, when the first
character of the text has the offset `n`. -/
def foreignFrom : Nat → Text → Option BadCharacter
  | _, [] => none
  | n, c :: t => if isForeign c then some ⟨c, n⟩ else foreignFrom (n + 1) t

@[simp] theorem foreignFrom_nil (n : Nat) : foreignFrom n [] = none := rfl

theorem foreignFrom_cons (n : Nat) (c : Char) (t : Text) :
    foreignFrom n (c :: t) = if isForeign c then some ⟨c, n⟩ else foreignFrom (n + 1) t := rfl

theorem foreignFrom_eq_none_iff : ∀ (t : Text) (n : Nat),
    foreignFrom n t = none ↔ ∀ c ∈ t, isForeign c = false := by
  intro t
  induction t with
  | nil => intro n; simp
  | cons c t ih =>
    intro n
    rw [foreignFrom_cons, List.forall_mem_cons]
    cases hc : isForeign c with
    | true => simp
    | false => simpa using ih (n + 1)

/-- **Nothing before the first foreign character is foreign.** -/
theorem exists_of_foreignFrom_eq_some : ∀ (t : Text) (n : Nat) (e : BadCharacter),
    foreignFrom n t = some e →
      ∃ us vs, t = us ++ e.char :: vs ∧ (∀ d ∈ us, isForeign d = false) ∧
        isForeign e.char = true ∧ e.offset = n + us.length := by
  intro t
  induction t with
  | nil =>
    intro n e h
    cases h
  | cons c t ih =>
    intro n e h
    rw [foreignFrom_cons] at h
    cases hc : isForeign c with
    | true =>
      rw [hc] at h
      obtain rfl := Option.some.inj h
      exact ⟨[], t, rfl, by simp, hc, rfl⟩
    | false =>
      rw [hc] at h
      obtain ⟨us, vs, rfl, hus, hforeign, hoffset⟩ := ih (n + 1) e h
      refine ⟨c :: us, vs, rfl, List.forall_mem_cons.mpr ⟨hc, hus⟩, hforeign, ?_⟩
      rw [List.length_cons]
      omega

/-- What the scan of a text comes to, told by the first foreign character and by
the symbols of the text. -/
def scanOutcome (n : Nat) (t : Text) : Scan :=
  match foreignFrom n t with
  | some e => .error e
  | none => .ok (tokensFrom n t)

theorem scanOutcome_cons_symbol {n : Nat} {c : Char} {t : Text} {s : Symbol}
    (hs : symbolOf? c = some s) :
    scanOutcome n (c :: t) = (scanOutcome (n + 1) t).map (⟨s, n⟩ :: ·) := by
  have hc : isForeign c = false := by simp [isForeign, hs]
  rw [scanOutcome, scanOutcome, foreignFrom_cons, hc, tokensFrom_cons_some hs]
  simp only [Bool.false_eq_true, if_false]
  cases foreignFrom (n + 1) t <;> rfl

/-- **The outcome of one scan.** -/
theorem scanFrom_fst : ∀ (t : Text) (n : Nat), (Scanner.scanFrom n t).1 = scanOutcome n t := by
  intro t
  induction t with
  | nil => intro n; rfl
  | cons c t ih =>
    intro n
    cases hblank : isBlank c with
    | true =>
      have hc : isForeign c = false := by simp [isForeign, hblank]
      rw [Scanner.scanFrom_blank hblank, ih, scanOutcome, scanOutcome, foreignFrom_cons, hc,
        tokensFrom_cons_none (symbolOf?_of_isBlank hblank)]
      rfl
    | false =>
      cases hs : symbolOf? c with
      | none =>
        have hc : isForeign c = true := by simp [isForeign, hblank, hs]
        rw [Scanner.scanFrom_bad hblank hs, scanOutcome, foreignFrom_cons, hc]
        rfl
      | some s => rw [Scanner.scanFrom_symbol hblank hs, ih, scanOutcome_cons_symbol hs]

theorem scan_eq (t : Text) : scan t = scanOutcome 0 t := scanFrom_fst t 0

/-- **When a scan succeeds, and with which tokens.** -/
theorem scan_eq_ok_iff {t : Text} {ts : List Token} :
    scan t = .ok ts ↔ (∀ c ∈ t, isForeign c = false) ∧ ts = tokensFrom 0 t := by
  rw [scan_eq, scanOutcome, ← foreignFrom_eq_none_iff t 0]
  cases foreignFrom 0 t with
  | none =>
    simp only [Except.ok.injEq, true_and]
    exact eq_comm
  | some e => simp

/-- **When a scan fails, and where.** -/
theorem scan_eq_error_iff {t : Text} {e : BadCharacter} :
    scan t = .error e ↔ foreignFrom 0 t = some e := by
  rw [scan_eq, scanOutcome]
  cases foreignFrom 0 t <;> simp

/-- The symbols of the tokens are those of the text. -/
theorem map_symbol_of_scan {t : Text} {ts : List Token} (h : scan t = .ok ts) :
    ts.map Token.symbol = t.filterMap symbolOf? := by
  obtain ⟨-, rfl⟩ := scan_eq_ok_iff.mp h
  exact map_symbol_tokensFrom t 0

/-- The operators of a text are as many as the signs in it. -/
theorem countP_isOperator_filterMap (t : Text) :
    (t.filterMap symbolOf?).countP Symbol.isOperator = t.countP isOperatorGlyph := by
  rw [List.countP_filterMap]
  refine List.countP_congr fun c _ => ?_
  rw [← any_isOperator_symbolOf? c]
  cases symbolOf? c <;> simp

end TruthTables
