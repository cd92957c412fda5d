import TruthTables.Token.Limit
import TruthTables.Proofs.Names
import TruthTables.Proofs.Text.Visible
import TruthTables.Proofs.Token.Scanning

/-!
# Other letters in other places

A renaming exchanges the letters of a text, no two for the same one, and leaves all
other characters alone.  So each character remains what it is to a scanner: white
space, a letter, a sign, or a character that belongs to no formula.

A scanner takes from a text its characters other than white space, in order and with
their offsets.  If these are renamed in a text, and told with other offsets, then the
same happens to what the scanner finds; and the limits, which count different names and
do not look at offsets, take no notice at all.

## Main definitions

* `Renaming` — an exchange of letters; `Renaming.refl`, `Renaming.swap`.
* `Symbol.rename ρ`, `Token.map ρ φ` — with the names and the offsets exchanged.

## Main results

* `Renaming.symbolOf?_apply`, `Renaming.isForeign_apply` — characters keep their kind.
* `scan_of_marks` — **scanning a text with other letters in other places.**
* `checkLimits_map` — the limits do not depend on names and offsets.
-/

namespace TruthTables

/-! ### Exchanging letters -/

/-- An exchange of letters. -/
structure Renaming where
  /-- What comes in the place of a character. -/
  toFun : Char → Char
  /-- In the place of a letter comes a letter. -/
  letters : ∀ c, IsLetter c → IsLetter (toFun c)
  /-- Every other character stays. -/
  others : ∀ c, ¬ IsLetter c → toFun c = c
  /-- Different letters are exchanged for different ones. -/
  inj : ∀ c d, IsLetter c → IsLetter d → toFun c = toFun d → c = d

namespace Renaming

instance : CoeFun Renaming fun _ => Char → Char := ⟨toFun⟩

/-- Every letter stays. -/
def refl : Renaming where
  toFun := id
  letters := fun _ h => h
  others := fun _ _ => rfl
  inj := fun _ _ _ _ h => h

@[simp] theorem toFun_refl : (refl : Char → Char) = id := rfl

/-- The exchange of two letters for one another. -/
def swap (x y : Char) (hx : IsLetter x) (hy : IsLetter y) : Renaming where
  toFun := fun c => if c = x then y else if c = y then x else c
  letters := by
    intro c hc
    split
    · exact hy
    · split
      · exact hx
      · exact hc
  others := by
    intro c hc
    have hcx : c ≠ x := fun h => hc (h ▸ hx)
    have hcy : c ≠ y := fun h => hc (h ▸ hy)
    rw [if_neg hcx, if_neg hcy]
  inj := by
    intro c d _ _ h
    grind

variable (p : Renaming)

theorem isLetter_apply {c : Char} : IsLetter (p c) ↔ IsLetter c := by
  by_cases hc : IsLetter c
  · exact iff_of_true (p.letters c hc) hc
  · rw [p.others c hc]

/-- **No two characters are exchanged for the same one**, letters or not. -/
theorem injective : Function.Injective p := by
  intro c d h
  by_cases hc : IsLetter c
  · have hd : IsLetter d := p.isLetter_apply.mp (h ▸ p.letters c hc)
    exact p.inj c d hc hd h
  · have hd : ¬ IsLetter d := fun hd => hc (p.isLetter_apply.mp (h ▸ p.letters d hd))
    rw [p.others c hc, p.others d hd] at h
    exact h

theorem isBlank_apply (c : Char) : isBlank (p c) = isBlank c := by
  by_cases hc : IsLetter c
  · rw [isBlank_eq_false_of_isLetter hc, isBlank_eq_false_of_isLetter (p.letters c hc)]
  · rw [p.others c hc]

end Renaming

/-- A symbol with another name for a variable. -/
def Symbol.rename (ρ : Char → Char) : Symbol → Symbol
  | atom c => atom (ρ c)
  | neg => neg
  | op o => op o

namespace Renaming

variable (p : Renaming)

/-- **The symbol that a character is**, is renamed with it. -/
theorem symbolOf?_apply (c : Char) : symbolOf? (p c) = (symbolOf? c).map (Symbol.rename p) := by
  by_cases hc : IsLetter c
  · rw [symbolOf?_of_isLetter hc, symbolOf?_of_isLetter (p.letters c hc)]
    rfl
  · rw [p.others c hc]
    cases hs : symbolOf? c with
    | none => rfl
    | some s =>
      cases s with
      | atom d => exact absurd (isLetter_of_symbolOf? hs).2 hc
      | neg => rfl
      | op o => rfl

theorem isForeign_apply (c : Char) : isForeign (p c) = isForeign c := by
  rw [isForeign, isForeign, p.isBlank_apply, p.symbolOf?_apply, Option.isNone_map]

/-- A character that belongs to no formula is no letter, and stays. -/
theorem apply_of_isForeign {c : Char} (h : isForeign c = true) : p c = c := by
  refine p.others c fun hc => ?_
  rw [isForeign, symbolOf?_of_isLetter hc, Option.isNone_some, Bool.and_false] at h
  cases h

end Renaming

/-! ### Scanning -/

/-- A token with another name for a variable and another offset. -/
def Token.map (ρ : Char → Char) (φ : Nat → Nat) (t : Token) : Token :=
  ⟨t.symbol.rename ρ, φ t.offset⟩

/-- A bad character with another offset. -/
def BadCharacter.map (φ : Nat → Nat) (e : BadCharacter) : BadCharacter := ⟨e.char, φ e.offset⟩

/-- The tokens of a text are told from what is no white space in it. -/
theorem tokensFrom_eq_filterMap_marks (t : Text) :
    tokensFrom 0 t = t.marks.filterMap fun x => (symbolOf? x.1).map (⟨·, x.2⟩) := by
  have hall : ∀ (t : Text) (n : Nat), tokensFrom n t =
      (t.zipIdx n).filterMap fun x => (symbolOf? x.1).map (⟨·, x.2⟩) := by
    intro t
    induction t with
    | nil => intro n; rfl
    | cons c t ih =>
      intro n
      rw [List.zipIdx_cons]
      cases hs : symbolOf? c with
      | none => rw [tokensFrom_cons_none hs, List.filterMap_cons_none (by rw [hs]; rfl), ih]
      | some s => rw [tokensFrom_cons_some hs, List.filterMap_cons_some (by rw [hs]; rfl), ih]
  rw [hall, Text.marks, List.filterMap_filter]
  congr 1
  funext x
  -- white space is no symbol, so nothing is lost with it
  cases hblank : isBlank x.1 with
  | true => simp [symbolOf?_of_isBlank hblank]
  | false => simp

/-- So is the first foreign character. -/
theorem foreignFrom_eq_find?_marks (t : Text) :
    foreignFrom 0 t = (t.marks.find? fun x => isForeign x.1).map fun x => ⟨x.1, x.2⟩ := by
  have hall : ∀ (t : Text) (n : Nat), foreignFrom n t =
      ((t.zipIdx n).find? fun x => isForeign x.1).map fun x => ⟨x.1, x.2⟩ := by
    intro t
    induction t with
    | nil => intro n; rfl
    | cons c t ih =>
      intro n
      rw [List.zipIdx_cons, foreignFrom_cons, List.find?_cons]
      cases isForeign c with
      | true => rfl
      | false => exact ih (n + 1)
  have hforeign : (fun x : Char × Nat => decide ((!isBlank x.1) = true ∧ isForeign x.1 = true))
      = fun x => isForeign x.1 := by
    funext x
    rw [Bool.eq_iff_iff, decide_eq_true_iff]
    refine ⟨And.right, fun h => ⟨?_, h⟩⟩
    rw [isForeign, Bool.and_eq_true] at h
    exact h.1
  rw [hall, Text.marks, List.find?_filter, hforeign]

section Marks

variable {p : Renaming} {φ : Nat → Nat} {s t : Text}
  (h : t.marks = s.marks.map (Prod.map p φ))

include h

theorem tokensFrom_of_marks : tokensFrom 0 t = (tokensFrom 0 s).map (Token.map p φ) := by
  rw [tokensFrom_eq_filterMap_marks, tokensFrom_eq_filterMap_marks, h, List.filterMap_map,
    List.map_filterMap]
  congr 1
  funext x
  show (symbolOf? (p x.1)).map _ = _
  rw [p.symbolOf?_apply]
  cases symbolOf? x.1 <;> rfl

theorem foreignFrom_of_marks : foreignFrom 0 t = (foreignFrom 0 s).map (BadCharacter.map φ) := by
  have hforeign : (fun x : Char × Nat => isForeign x.1) ∘ Prod.map p φ = fun x => isForeign x.1 :=
    funext fun x => p.isForeign_apply x.1
  rw [foreignFrom_eq_find?_marks, foreignFrom_eq_find?_marks, h, List.find?_map, hforeign,
    Option.map_map, Option.map_map]
  -- the character that is found stays the same
  refine Option.map_congr fun x hx => ?_
  have hfound := List.find?_some hx
  have hchar : p x.1 = x.1 := p.apply_of_isForeign hfound
  show (⟨p x.1, φ x.2⟩ : BadCharacter) = ⟨x.1, φ x.2⟩
  rw [hchar]

/-- **Scanning a text with other letters in other places** finds the same with these
letters and these offsets. -/
theorem scan_of_marks :
    scan t = ((scan s).map (List.map (Token.map p φ))).mapError (BadCharacter.map φ) := by
  rw [scan_eq, scan_eq, scanOutcome, scanOutcome, foreignFrom_of_marks h, tokensFrom_of_marks h]
  cases foreignFrom 0 s <;> rfl

end Marks

/-! ### Limits -/

/-- **The limits do not depend on names and offsets**, as long as different names remain
different. -/
theorem checkLimits_map {ρ : Char → Char} (hρ : Function.Injective ρ) (φ : Nat → Nat)
    (ts : List Token) : checkLimits (ts.map (Token.map ρ φ)) = checkLimits ts := by
  have hname : (fun x : Token => x.symbol.name?) ∘ Token.map ρ φ
      = fun x => x.symbol.name?.map ρ := by
    funext x
    obtain ⟨s, o⟩ := x
    cases s <;> rfl
  have hop : (fun x : Token => x.symbol.isOperator) ∘ Token.map ρ φ
      = fun x => x.symbol.isOperator := by
    funext x
    obtain ⟨s, o⟩ := x
    cases s <;> rfl
  have hsize : (tokenNames (ts.map (Token.map ρ φ))).size = (tokenNames ts).size := by
    rw [tokenNames, List.filterMap_map, hname, ← List.map_filterMap]
    exact (Names.perm_ofList_map hρ _).length_eq.trans (List.length_map ρ)
  have hcount : operatorTokens (ts.map (Token.map ρ φ)) = operatorTokens ts := by
    rw [operatorTokens, List.countP_map, hop]
    rfl
  rw [checkLimits, checkLimits, hsize, hcount]

end TruthTables
