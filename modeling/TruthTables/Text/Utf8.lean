import TruthTables.Text.Basic

/-!
# Writing text as bytes

Texts are written in UTF-8.  A place to write to may have room for a limited
number of bytes only: writing a list of pieces keeps each piece that fits, and
of the first that does not as much as there is room for, and then stops.

## Main definitions

* `Text.utf8 t` — the bytes of `t`.
* `Text.byteCount t` — how many they are.
* `WriteError` — why something could not be written.
* `writeWithin room pieces` — the bytes that are kept when the pieces are
  written where there is room for `room` bytes, and the error if not all of them
  fitted.
-/

namespace TruthTables

namespace Text

/-- The bytes of a text in UTF-8. -/
def utf8 (t : Text) : List UInt8 := t.flatMap String.utf8EncodeChar

/-- The number of bytes of a text in UTF-8. -/
def byteCount (t : Text) : Nat := t.utf8.length

@[simp] theorem utf8_nil : utf8 [] = [] := rfl

@[simp] theorem utf8_cons (c : Char) (t : Text) :
    utf8 (c :: t) = String.utf8EncodeChar c ++ utf8 t := rfl

@[simp] theorem utf8_append (s t : Text) : utf8 (s ++ t) = utf8 s ++ utf8 t := by
  simp [utf8]

end Text

/-- Why something could not be written. -/
inductive WriteError
  /-- There is no room left for what has to be written still. -/
  | writeZero
  deriving DecidableEq, Repr

/-- What an error is called. -/
def WriteError.name : WriteError → Text
  | writeZero => "WriteZero".toList

/-- What an error says. -/
def WriteError.message : WriteError → Text
  | writeZero => "failed to write whole buffer".toList

/-- What writing into a limited place came to. -/
structure Written where
  /-- The bytes that were kept. -/
  bytes : List UInt8
  /-- Why not everything was written, if so. -/
  failure : Option WriteError
  deriving DecidableEq, Repr

/-- Writes pieces one after the other where there is room for `room` bytes.  The
first piece that does not fit is cut, even inside a character, and nothing after
it is written. -/
def writeWithin : Nat → List Text → Written
  | _, [] => ⟨[], none⟩
  | room, p :: ps =>
    if p.utf8.length ≤ room then
      let rest := writeWithin (room - p.utf8.length) ps
      ⟨p.utf8 ++ rest.bytes, rest.failure⟩
    else ⟨p.utf8.take room, some .writeZero⟩

@[simp] theorem writeWithin_nil (room : Nat) : writeWithin room [] = ⟨[], none⟩ := rfl

/-- What is kept does not depend on how the text is cut into pieces: it is the
first `room` bytes of the whole, and the whole fits if it has no more. -/
theorem writeWithin_eq (room : Nat) (ps : List Text) :
    writeWithin room ps =
      ⟨(Text.utf8 ps.flatten).take room,
        if (Text.utf8 ps.flatten).length ≤ room then none else some .writeZero⟩ := by
  induction ps generalizing room with
  | nil => simp
  | cons p ps ih =>
    rw [writeWithin, List.flatten_cons, Text.utf8_append, List.take_append, List.length_append]
    split
    · next h =>
      have hfits : (Text.utf8 ps.flatten).length ≤ room - p.utf8.length ↔
          p.utf8.length + (Text.utf8 ps.flatten).length ≤ room := by omega
      simp only [ih, List.take_of_length_le h, hfits]
    · next h =>
      -- nothing of the later pieces is written
      have hnone : room - p.utf8.length = 0 := by omega
      have hover : ¬ p.utf8.length + (Text.utf8 ps.flatten).length ≤ room := by omega
      simp [hnone, hover]

end TruthTables
