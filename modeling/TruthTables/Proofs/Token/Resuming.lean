import Mathlib.Data.List.Basic
import TruthTables.Proofs.Token.Renaming

/-!
# Scanning on

A scan that a bad character ends leaves its scanner just past this character, and a scan
that reaches the end of the text leaves it there.  So a scanner that is made to scan again and
again reports each bad character of its text in turn, gives up the tokens before it each
time, and comes to the tokens past the last one.  From then on it finds nothing.

What a scanner comes to in one scan, and where it is left by it, is settled by the first bad
character of what it has before it (`scanFrom_of_forall`, `scanFrom_append_cons`).  From this
step any number of scans follows by induction on their number (`scans_eq_take`).

## Main definitions

* `badFrom n t` — all bad characters of `t` with their offsets, when the first character of
  `t` has the offset `n`.
* `allBefore bad o` — all of the bad characters `bad` stand before the offset `o`.
* `tokensPastBad n t` — the tokens of `t` past the last bad character.
* `outcomesFrom n t m` — what scanning on comes to, the last `m` scans in vain.

## Main results

* `scans_eq_take` — the outcomes of any number of scans.
* `scans_ofText` — **a scanner reports every bad character, and then the tokens past the last.**
-/

namespace TruthTables

/-! ### Where a scan leaves the scanner -/

section Left

open Scanner

/-- What is not foreign does not end a scan. -/
theorem scanFrom_cons_snd {c : Char} (hc : isForeign c = false) (n : Nat) (t : Text) :
    (scanFrom n (c :: t)).2 = (scanFrom (n + 1) t).2 := by
  cases hblank : isBlank c with
  | true => rw [scanFrom_blank hblank]
  | false =>
    cases hs : symbolOf? c with
    | none => simp [isForeign, hblank, hs] at hc
    | some s => rw [scanFrom_symbol hblank hs]

theorem scanFrom_append_snd : ∀ (us t : Text) (n : Nat), (∀ c ∈ us, isForeign c = false) →
    (scanFrom n (us ++ t)).2 = (scanFrom (n + us.length) t).2 := by
  intro us t
  induction us with
  | nil => intro n _; rfl
  | cons c us ih =>
    intro n h
    obtain ⟨hc, hus⟩ := List.forall_mem_cons.mp h
    have hlength : n + 1 + us.length = n + (us.length + 1) := by omega
    rw [List.cons_append, scanFrom_cons_snd hc, ih (n + 1) hus, List.length_cons, hlength]

/-- **A text without bad characters** is scanned to its end. -/
theorem scanFrom_of_forall {t : Text} (h : ∀ c ∈ t, isForeign c = false) (n : Nat) :
    scanFrom n t = (.ok (tokensFrom n t), ⟨n + t.length, []⟩) := by
  have hoffset := scanFrom_append_snd t [] n h
  rw [List.append_nil] at hoffset
  have houtcome := scanFrom_fst t n
  rw [scanOutcome, (foreignFrom_eq_none_iff t n).mpr h] at houtcome
  exact Prod.ext houtcome hoffset

theorem foreignFrom_append_cons {us : Text} {c : Char} (hus : ∀ d ∈ us, isForeign d = false)
    (hc : isForeign c = true) (vs : Text) (n : Nat) :
    foreignFrom n (us ++ c :: vs) = some ⟨c, n + us.length⟩ := by
  induction us generalizing n with
  | nil => simp [foreignFrom_cons, hc]
  | cons d us ih =>
    obtain ⟨hd, hus⟩ := List.forall_mem_cons.mp hus
    have hlength : n + 1 + us.length = n + (us.length + 1) := by omega
    rw [List.cons_append, foreignFrom_cons, hd, List.length_cons, ← hlength]
    exact ih hus (n + 1)

/-- **A bad character ends the scan**, and the scanner is left just past it. -/
theorem scanFrom_append_cons {us : Text} {c : Char} (hus : ∀ d ∈ us, isForeign d = false)
    (hc : isForeign c = true) (vs : Text) (n : Nat) :
    scanFrom n (us ++ c :: vs) =
      (.error ⟨c, n + us.length⟩, ⟨n + us.length + 1, vs⟩) := by
  have hoffset := scanFrom_append_snd us (c :: vs) n hus
  have hbad : isBlank c = false ∧ symbolOf? c = none := by simpa [isForeign] using hc
  rw [scanFrom_bad hbad.1 hbad.2] at hoffset
  have houtcome := scanFrom_fst (us ++ c :: vs) n
  rw [scanOutcome, foreignFrom_append_cons hus hc] at houtcome
  exact Prod.ext houtcome hoffset

end Left

/-! ### All bad characters -/

/-- The bad characters of a text with their offsets, when its first character has the
offset `n`. -/
def badFrom (n : Nat) (t : Text) : List BadCharacter :=
  ((t.zipIdx n).filter fun x => isForeign x.1).map fun x => ⟨x.1, x.2⟩

theorem badFrom_of_forall {t : Text} (h : ∀ c ∈ t, isForeign c = false) (n : Nat) :
    badFrom n t = [] := by
  rw [badFrom, Text.filter_zipIdx_eq_nil h, List.map_nil]

theorem badFrom_append_cons {us : Text} {c : Char} (hus : ∀ d ∈ us, isForeign d = false)
    (hc : isForeign c = true) (vs : Text) (n : Nat) :
    badFrom n (us ++ c :: vs) = ⟨c, n + us.length⟩ :: badFrom (n + us.length + 1) vs := by
  have hnone := badFrom_of_forall hus n
  rw [badFrom] at hnone
  have hfirst : isForeign (c, n + us.length).1 = true := hc
  rw [badFrom, List.zipIdx_append, List.filter_append, List.map_append, hnone, List.nil_append,
    List.zipIdx_cons, List.filter_cons, if_pos hfirst, List.map_cons, badFrom]

/-- All of some bad characters stand before the offset `o`. -/
def allBefore (bad : List BadCharacter) (o : Nat) : Bool := bad.all fun e => e.offset < o

@[simp] theorem allBefore_nil (o : Nat) : allBefore [] o = true := rfl

@[simp] theorem allBefore_cons (e : BadCharacter) (bad : List BadCharacter) (o : Nat) :
    allBefore (e :: bad) o = (decide (e.offset < o) && allBefore bad o) := rfl

/-- No bad character stands before itself. -/
theorem allBefore_offset_of_mem {bad : List BadCharacter} {e : BadCharacter} (h : e ∈ bad) :
    allBefore bad e.offset = false := by
  rw [allBefore, List.all_eq_false]
  exact ⟨e, h, by simp⟩

/-- The bad characters are those that are foreign, each with its place. -/
theorem mem_badFrom_iff {t : Text} {e : BadCharacter} :
    e ∈ badFrom 0 t ↔ t[e.offset]? = some e.char ∧ isForeign e.char = true := by
  rw [badFrom, List.mem_map]
  constructor
  · rintro ⟨x, hx, rfl⟩
    obtain ⟨hx, hforeign⟩ := List.mem_filter.mp hx
    exact ⟨List.mem_zipIdx_iff_getElem?.mp hx, hforeign⟩
  · rintro ⟨he, hforeign⟩
    have hmem : (e.char, e.offset) ∈ t.zipIdx := List.mem_zipIdx_iff_getElem?.mpr he
    exact ⟨(e.char, e.offset), List.mem_filter.mpr ⟨hmem, hforeign⟩, rfl⟩

/-- They come in the order in which they stand. -/
theorem pairwise_badFrom (t : Text) (n : Nat) :
    (badFrom n t).Pairwise (·.offset < ·.offset) := by
  have hoffsets : ((t.zipIdx n).map Prod.snd).Pairwise (· < ·) := by
    rw [List.zipIdx_map_snd]
    exact List.pairwise_lt_range'
  rw [List.pairwise_map] at hoffsets
  rw [badFrom, List.pairwise_map]
  exact hoffsets.filter _

/-! ### The tokens past the last bad character -/

/-- The tokens of a text past its last bad character, when the first character of the text
has the offset `n`. -/
def tokensPastBad (n : Nat) (t : Text) : List Token :=
  (tokensFrom n t).filter fun x => allBefore (badFrom n t) x.offset

theorem tokensFrom_append (us vs : Text) (n : Nat) :
    tokensFrom n (us ++ vs) = tokensFrom n us ++ tokensFrom (n + us.length) vs := by
  induction us generalizing n with
  | nil => rfl
  | cons c us ih =>
    have hlength : n + 1 + us.length = n + (us.length + 1) := by omega
    cases hs : symbolOf? c with
    | none =>
      rw [List.cons_append, tokensFrom_cons_none hs, tokensFrom_cons_none hs, ih, List.length_cons,
        hlength]
    | some s =>
      rw [List.cons_append, tokensFrom_cons_some hs, tokensFrom_cons_some hs, ih, List.length_cons,
        hlength, List.cons_append]

theorem tokensPastBad_of_forall {t : Text} (h : ∀ c ∈ t, isForeign c = false) (n : Nat) :
    tokensPastBad n t = tokensFrom n t := by
  rw [tokensPastBad, badFrom_of_forall h, List.filter_eq_self]
  intro x _
  rfl

/-- The tokens before a bad character are given up. -/
theorem tokensPastBad_append_cons {us : Text} {c : Char} (hus : ∀ d ∈ us, isForeign d = false)
    (hc : isForeign c = true) (vs : Text) (n : Nat) :
    tokensPastBad n (us ++ c :: vs) = tokensPastBad (n + us.length + 1) vs := by
  have hnone : symbolOf? c = none := by
    rw [isForeign, Bool.and_eq_true] at hc
    exact Option.isNone_iff_eq_none.mp hc.2
  have hbefore : (tokensFrom n us).filter
      (fun x => allBefore (badFrom n (us ++ c :: vs)) x.offset) = [] := by
    rw [List.filter_eq_nil_iff, badFrom_append_cons hus hc]
    intro x hx
    obtain ⟨i, d, hoffset, hd, -⟩ := getElem?_of_mem_tokensFrom us n x hx
    obtain ⟨hi, -⟩ := List.getElem?_eq_some_iff.mp hd
    have hle : ¬ n + us.length < x.offset := by omega
    simp [hle]
  have hafter : (tokensFrom (n + us.length + 1) vs).filter
      (fun x => allBefore (badFrom n (us ++ c :: vs)) x.offset)
      = tokensPastBad (n + us.length + 1) vs := by
    refine List.filter_congr fun x hx => ?_
    obtain ⟨i, d, hoffset, -, -⟩ := getElem?_of_mem_tokensFrom vs _ x hx
    have hlt : n + us.length < x.offset := by omega
    rw [badFrom_append_cons hus hc]
    simp [hlt]
  rw [tokensPastBad, tokensFrom_append, tokensFrom_cons_none hnone, List.filter_append, hbefore,
    hafter, List.nil_append]

/-- **There is one token for each character past the last bad one** that is no white space,
with its glyph and its offset. -/
theorem map_tokensPastBad (t : Text) :
    (tokensPastBad 0 t).map (fun x => (x.symbol.glyph, x.offset)) =
      t.marks.filter fun m => allBefore (badFrom 0 t) m.2 := by
  -- what is neither white space nor a symbol is bad, and so not past the last bad character
  have hbad : ∀ m ∈ t.marks, symbolOf? m.1 = none → allBefore (badFrom 0 t) m.2 = false := by
    intro m hm hs
    obtain ⟨hmem, hblank⟩ := List.mem_filter.mp hm
    have hc : isForeign m.1 = true := by simpa [isForeign, hs] using hblank
    have he : (⟨m.1, m.2⟩ : BadCharacter) ∈ badFrom 0 t :=
      mem_badFrom_iff.mpr ⟨List.mem_zipIdx_iff_getElem?.mp hmem, hc⟩
    exact allBefore_offset_of_mem he
  have hone : ∀ m ∈ t.marks,
      (((symbolOf? m.1).map (Token.mk · m.2)).filter
        fun x => allBefore (badFrom 0 t) x.offset).map (fun x => (x.symbol.glyph, x.offset)) =
      Option.guard (fun m : Char × Nat => allBefore (badFrom 0 t) m.2) m := by
    intro m hm
    cases hs : symbolOf? m.1 with
    | none => simp [Option.guard, hbad m hm hs]
    | some s =>
      have hglyph : s.glyph = m.1 := glyph_of_symbolOf? hs
      cases hpast : allBefore (badFrom 0 t) m.2 <;> simp [Option.guard, hpast, hglyph]
  rw [tokensPastBad, tokensFrom_eq_filterMap_marks, List.filter_filterMap, List.map_filterMap,
    ← List.filterMap_eq_filter]
  exact List.filterMap_congr hone

/-! ### Any number of scans -/

/-- What a scanner comes to that is made to scan again and again, told by the bad characters
of its text and by the tokens past the last. -/
def outcomesFrom (n : Nat) (t : Text) (m : Nat) : List Scan :=
  (badFrom n t).map .error ++ .ok (tokensPastBad n t) :: List.replicate m (.ok [])

theorem outcomesFrom_of_forall {t : Text} (h : ∀ c ∈ t, isForeign c = false) (n m : Nat) :
    outcomesFrom n t m = .ok (tokensFrom n t) :: List.replicate m (.ok []) := by
  rw [outcomesFrom, badFrom_of_forall h, tokensPastBad_of_forall h]
  rfl

theorem outcomesFrom_append_cons {us : Text} {c : Char} (hus : ∀ d ∈ us, isForeign d = false)
    (hc : isForeign c = true) (vs : Text) (n m : Nat) :
    outcomesFrom n (us ++ c :: vs) m =
      .error ⟨c, n + us.length⟩ :: outcomesFrom (n + us.length + 1) vs m := by
  rw [outcomesFrom, badFrom_append_cons hus hc, tokensPastBad_append_cons hus hc]
  rfl

/-- At the end of the text nothing is found any more. -/
theorem scans_nil (k n : Nat) : Scanner.scans k ⟨n, []⟩ = List.replicate k (.ok []) := by
  induction k with
  | zero => rfl
  | succ k ih =>
    rw [Scanner.scans_succ, List.replicate_succ, ← ih]
    rfl

/-- **The outcomes of any number of scans.** -/
theorem scans_eq_take : ∀ (k m n : Nat) (t : Text), k ≤ m →
    Scanner.scans k ⟨n, t⟩ = (outcomesFrom n t m).take k := by
  intro k
  -- Induction on the number of scans: the first goes to the first bad character or to the end.
  induction k with
  | zero => intro m n t _; rfl
  | succ k ih =>
    intro m n t hm
    rw [Scanner.scans_succ, Scanner.scan]
    cases hforeign : foreignFrom n t with
    | none =>
      have ht := (foreignFrom_eq_none_iff t n).mp hforeign
      have hmin : min k m = k := by omega
      rw [scanFrom_of_forall ht, scans_nil, outcomesFrom_of_forall ht, List.take_succ_cons,
        List.take_replicate, hmin]
    | some e =>
      obtain ⟨us, vs, rfl, hus, hc, -⟩ := exists_of_foreignFrom_eq_some t n e hforeign
      rw [scanFrom_append_cons hus hc, ih m _ vs (by omega), outcomesFrom_append_cons hus hc,
        List.take_succ_cons]

/-- **A scanner reports every bad character, and then the tokens past the last.**  For any
number `k` of scans, those that come first end at the bad characters, which are all characters
outside the alphabet, in order and each with its place.  The next finds a token for each
character past the last of them that is no white space, in order and each with its place, and
the symbol that the character is.  All others find nothing. -/
theorem scans_ofText (t : Text) :
    ∃ (bad : List BadCharacter) (ts : List Token),
      bad.Pairwise (·.offset < ·.offset) ∧
      (∀ e, e ∈ bad ↔ t[e.offset]? = some e.char ∧ ¬ InAlphabet e.char) ∧
      ts.map (fun x => (x.symbol.glyph, x.offset)) =
        t.marks.filter (fun m => allBefore bad m.2) ∧
      (∀ x ∈ ts, t[x.offset]? = some x.symbol.glyph ∧ symbolOf? x.symbol.glyph = some x.symbol) ∧
      ∀ k, (Scanner.ofText t).scans k =
        (bad.map Except.error ++ Except.ok ts :: List.replicate k (Except.ok [])).take k := by
  refine ⟨badFrom 0 t, tokensPastBad 0 t, pairwise_badFrom t 0, fun e => ?_, map_tokensPastBad t,
    fun x hx => ?_, fun k => scans_eq_take k k 0 t (Nat.le_refl k)⟩
  · rw [mem_badFrom_iff, ← isForeign_eq_false_iff, Bool.not_eq_false]
  · obtain ⟨i, c, hoffset, hc, hsymbol⟩ :=
      getElem?_of_mem_tokensFrom t 0 x (List.mem_filter.mp hx).1
    obtain rfl := glyph_of_symbolOf? hsymbol
    rw [hoffset, Nat.zero_add]
    exact ⟨hc, hsymbol⟩

/-- What is read before a bad character is not found again. -/
example : (Scanner.ofText "A?B#~C".toList).scans 4 =
    [.error ⟨'?', 1⟩, .error ⟨'#', 3⟩, .ok [⟨.neg, 4⟩, ⟨.atom 'C', 5⟩], .ok []] := rfl

end TruthTables
