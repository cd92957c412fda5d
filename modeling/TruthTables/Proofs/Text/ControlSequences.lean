import Mathlib.Data.List.Forall2
import TruthTables.Theme

/-!
# Control sequences

A colored text has control sequences in it, which a terminal does not show.  Taking them out
again goes through the text from left to right: an escape character that begins a control
sequence is dropped together with the sequence, and everything else is kept.

In general the parts of a text cannot be stripped one by one, for an escape character at the
end of one part may begin a sequence with what the next part begins with.  So texts are compared
by a relation instead: a text decorates another if it is the other with whole control sequences
put in, and the other has no escape character.  This goes from parts to the whole, and what
decorates a text is stripped to it.

## Main definitions

* `Text.strip t` — the text `t` without its control sequences.
* `Text.Decorates d t` — `d` is `t` with control sequences put in.

## Main results

* `Text.Decorates.strip_eq` — **what decorates a text is stripped to it.**
* `Text.Decorates.append`, `Text.Decorates.intercalate` — decorated parts make a decorated
  whole.
* `Text.Decorates.notMem_newline`, `Text.Decorates.ne_nil` — control sequences put in leave lines
  lines, and leave no text empty that was not.
* `Text.decorates_paint`, `Text.decorates_paintBold` — a colored text decorates the plain one.
-/

namespace TruthTables

namespace Text

/-! ### Taking control sequences out -/

/-- The character that begins a control sequence. -/
def escape : Char := '\x1b'

/-- A character that may stand between the bracket and the letter of a control sequence. -/
def isParameter (c : Char) : Bool := c.isDigit || c == ';'

/-- What comes after a control sequence, if a text that follows an escape character makes one
with it. -/
def afterSequence? : Text → Option Text
  | '[' :: t =>
    match t.dropWhile isParameter with
    | 'm' :: u => some u
    | _ => none
  | _ => none

theorem length_lt_of_afterSequence? {t u : Text} (h : afterSequence? t = some u) :
    u.length < t.length := by
  unfold afterSequence? at h
  split at h
  · rename_i s
    have hle := (List.dropWhile_sublist isParameter (l := s)).length_le
    split at h
    · rename_i hdrop
      obtain rfl := Option.some.inj h
      rw [hdrop, List.length_cons] at hle
      rw [List.length_cons]
      omega
    · cases h
  · cases h

/-- A text without its control sequences. -/
def strip : Text → Text
  | [] => []
  | c :: t =>
    if c = escape then
      match _hafter : afterSequence? t with
      | some u => strip u
      | none => c :: strip t
    else c :: strip t
termination_by t => t.length
decreasing_by
  · exact Nat.lt_succ_of_lt (length_lt_of_afterSequence? _hafter)
  · exact Nat.lt_succ_self _
  · exact Nat.lt_succ_self _

@[simp] theorem strip_nil : strip [] = [] := by
  rw [strip]

theorem strip_cons_of_ne {c : Char} (h : c ≠ escape) (t : Text) :
    strip (c :: t) = c :: strip t := by
  rw [strip, if_neg h]

theorem strip_sequence {ps : Text} (hps : ∀ p ∈ ps, isParameter p = true) (t : Text) :
    strip (escape :: '[' :: (ps ++ 'm' :: t)) = strip t := by
  -- no parameter is an `m`, so the first `m` ends the sequence
  have hdrop : (ps ++ 'm' :: t).dropWhile isParameter = 'm' :: t := by
    rw [List.dropWhile_append_of_pos hps, List.dropWhile_cons_of_neg (by decide)]
  have hafter : afterSequence? ('[' :: (ps ++ 'm' :: t)) = some t := by
    simp only [afterSequence?, hdrop]
  rw [strip, if_pos rfl]
  split
  · rename_i u hu
    rw [hafter] at hu
    rw [Option.some.inj hu]
  · rename_i hnone
    rw [hafter] at hnone
    cases hnone

/-! ### Decorated texts -/

/-- The text `d` is the text `t`, which has no escape character, with control sequences put in
between its characters. -/
inductive Decorates : Text → Text → Prop
  /-- There is nothing. -/
  | nil : Decorates [] []
  /-- A character of the text itself. -/
  | char {c : Char} {d t : Text} (hc : c ≠ escape) (h : Decorates d t) :
    Decorates (c :: d) (c :: t)
  /-- A control sequence. -/
  | sequence {ps d t : Text} (hps : ∀ p ∈ ps, isParameter p = true) (h : Decorates d t) :
    Decorates (escape :: '[' :: (ps ++ 'm' :: d)) t

/-- A text without an escape character decorates itself. -/
theorem decorates_self {t : Text} (h : escape ∉ t) : Decorates t t := by
  induction t with
  | nil => exact .nil
  | cons c t ih =>
    obtain ⟨hc, ht⟩ := List.ne_and_not_mem_of_not_mem_cons h
    exact .char hc.symm (ih ht)

namespace Decorates

variable {d t d' t' : Text}

/-- **What decorates a text is stripped to it.** -/
theorem strip_eq (h : Decorates d t) : strip d = t := by
  induction h with
  | nil => exact strip_nil
  | char hc _ ih => rw [strip_cons_of_ne hc, ih]
  | sequence hps _ ih => rw [strip_sequence hps, ih]

theorem append (h : Decorates d t) (h' : Decorates d' t') : Decorates (d ++ d') (t ++ t') := by
  induction h with
  | nil => exact h'
  | char hc _ ih => exact .char hc ih
  | @sequence ps d t hps _ ih =>
    rw [List.cons_append, List.cons_append, List.append_assoc, List.cons_append]
    exact .sequence hps ih

/-- Decorated texts with a decorated separator between them. -/
theorem intercalate {ds ts : List Text} (h : Decorates d t) (hs : List.Forall₂ Decorates ds ts) :
    Decorates (List.intercalate d ds) (List.intercalate t ts) := by
  induction hs with
  | nil => exact .nil
  | cons hd hs ih =>
    cases hs with
    | nil => simpa using hd
    | cons hd' hs =>
      rw [List.intercalate_cons_cons, List.intercalate_cons_cons]
      exact (hd.append h).append ih

/-- A control sequence has no line feed in it. -/
theorem notMem_newline (h : Decorates d t) (ht : '\n' ∉ t) : '\n' ∉ d := by
  induction h with
  | nil => exact ht
  | char hc _ ih =>
    obtain ⟨hne, ht⟩ := List.ne_and_not_mem_of_not_mem_cons ht
    rw [List.mem_cons, not_or]
    exact ⟨hne, ih ht⟩
  | @sequence ps d t hps _ ih =>
    have hparameter : '\n' ∉ ps := fun hmem => absurd (hps _ hmem) (by decide)
    simp only [List.mem_cons, List.mem_append, not_or]
    exact ⟨by decide, by decide, hparameter, by decide, ih ht⟩

/-- Nothing of a text is missing in what decorates it. -/
theorem ne_nil (h : Decorates d t) (ht : t ≠ []) : d ≠ [] := by
  cases h with
  | nil => exact ht
  | char hc h => exact List.cons_ne_nil _ _
  | sequence hps h => exact List.cons_ne_nil _ _

end Decorates

/-! ### Colored texts -/

theorem forall_mem_intercalate {P : Char → Prop} {separator : Text} {ts : List Text}
    (hseparator : ∀ c ∈ separator, P c) (h : ∀ t ∈ ts, ∀ c ∈ t, P c) :
    ∀ c ∈ List.intercalate separator ts, P c := by
  induction ts with
  | nil => intro c hc; cases hc
  | cons t ts ih =>
    obtain ⟨ht, hts⟩ := List.forall_mem_cons.mp h
    cases ts with
    | nil => simpa using ht
    | cons u us =>
      intro c hc
      rw [List.intercalate_cons_cons, List.mem_append, List.mem_append] at hc
      rcases hc with (hc | hc) | hc
      · exact ht c hc
      · exact hseparator c hc
      · exact ih hts c hc

theorem isParameter_of_mem_ofNat {n : Nat} {c : Char} (h : c ∈ ofNat n) : isParameter c = true := by
  rw [isParameter, Nat.isDigit_of_mem_toDigits (by decide) (by decide) h, Bool.true_or]

/-- A control sequence decorates nothing. -/
theorem decorates_controlSequence (parameters : List Nat) :
    Decorates (controlSequence parameters) [] := by
  have hparameters : ∀ p ∈ List.intercalate [';'] (parameters.map ofNat), isParameter p = true := by
    refine forall_mem_intercalate (List.forall_mem_singleton.mpr rfl) fun t ht c hc => ?_
    obtain ⟨n, -, rfl⟩ := List.mem_map.mp ht
    exact isParameter_of_mem_ofNat hc
  exact .sequence hparameters .nil

/-- In color there is no line feed that is not there without it, whatever else there is. -/
theorem notMem_newline_paint {t : Text} (h : '\n' ∉ t) (c : Rgb) : '\n' ∉ paint c t := by
  have hsequence : ∀ parameters, '\n' ∉ controlSequence parameters := fun parameters =>
    (decorates_controlSequence parameters).notMem_newline List.not_mem_nil
  exact List.not_mem_append (List.not_mem_append (hsequence _) h) (hsequence _)

theorem decorates_paint {t : Text} (h : escape ∉ t) (c : Rgb) : Decorates (paint c t) t := by
  have hpaint := ((decorates_controlSequence [38, 2, c.red, c.green, c.blue]).append
    (decorates_self h)).append (decorates_controlSequence [39])
  rwa [List.nil_append, List.append_nil] at hpaint

theorem decorates_paintBold {t : Text} (h : escape ∉ t) (c : Rgb) :
    Decorates (paintBold c t) t := by
  have hpaint := (((decorates_controlSequence [38, 2, c.red, c.green, c.blue]).append
    (decorates_controlSequence [1])).append (decorates_self h)).append
      (decorates_controlSequence [0])
  rwa [List.nil_append, List.nil_append, List.append_nil] at hpaint

end Text

end TruthTables
