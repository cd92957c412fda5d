import TruthTables.Text.Unprintable

/-!
# Inspecting values

The log shows a value in full, as an expression that would build it: a name
followed by arguments in parentheses, or by named fields in braces.  Characters
stand between apostrophes, and those that could not be read there are escaped.
The name of a file stands between quotation marks.

## Main definitions

* `Text.quotedChar c` — a character between apostrophes.
* `Text.quotedName t` — the name of a file between quotation marks.
* `Text.application`, `Text.fields` — a name with arguments, with named fields.
-/

namespace TruthTables

namespace Text

/-- A character as it stands between apostrophes. -/
def escapedChar (c : Char) : Text :=
  if c = '\x00' then "\\0".toList
  else if c = '\t' then "\\t".toList
  else if c = '\n' then "\\n".toList
  else if c = '\r' then "\\r".toList
  else if c = '\'' then "\\'".toList
  else if c = '\\' then "\\\\".toList
  else if isUnprintable c then "\\u\x7b".toList ++ hex c.toNat ++ ['\x7d']
  else [c]

/-- A character between apostrophes. -/
def quotedChar (c : Char) : Text := '\'' :: escapedChar c ++ ['\'']

/-- A character as it stands in the name of a file.  Apostrophes are escaped there as well, though
they could not end the name. -/
def escapedNameChar (c : Char) : Text := if c = '"' then "\\\"".toList else escapedChar c

/-- The name of a file between quotation marks. -/
def quotedName (t : Text) : Text := '"' :: t.flatMap escapedNameChar ++ ['"']

/-- A name with arguments. -/
def application (name : Text) (args : List Text) : Text :=
  name ++ '(' :: List.intercalate ", ".toList args ++ [')']

/-- A name with named fields. -/
def fields (name : Text) (fs : List (Text × Text)) : Text :=
  name ++ " \x7b ".toList ++
    List.intercalate ", ".toList (fs.map fun f => f.1 ++ ": ".toList ++ f.2) ++ " \x7d".toList

section Words

variable {name a b s t : String}

/-- A name with one argument, as it is read. -/
theorem application_one (hs : name ++ "(" = s) (x : Text) :
    application name.toList [x] = s.toList ++ x ++ ")".toList := by
  subst hs
  simp [application]

/-- A name with two arguments, as it is read. -/
theorem application_two (hs : name ++ "(" = s) (x y : Text) :
    application name.toList [x, y] = s.toList ++ x ++ ", ".toList ++ y ++ ")".toList := by
  subst hs
  simp [application]

/-- A name with one named field, as it is read. -/
theorem fields_one (hs : name ++ " \x7b " ++ a ++ ": " = s) (x : Text) :
    fields name.toList [(a.toList, x)] = s.toList ++ x ++ " \x7d".toList := by
  subst hs
  simp [fields]

/-- A name with two named fields, as it is read. -/
theorem fields_two (hs : name ++ " \x7b " ++ a ++ ": " = s) (ht : ", " ++ b ++ ": " = t)
    (x y : Text) :
    fields name.toList [(a.toList, x), (b.toList, y)] =
      s.toList ++ x ++ t.toList ++ y ++ " \x7d".toList := by
  subst hs ht
  simp [fields]

end Words

/-- An apostrophe and a tab are escaped, a quotation mark is not, and an accent
that would join the apostrophe is given by its code point. -/
example : ['\'', '\t', '"', '\u0301'].map quotedChar =
    ["'\\''".toList, "'\\t'".toList, "'\"'".toList, "'\\u\x7b301\x7d'".toList] := by
  decide +kernel

/-- In the name of a file both kinds of marks are escaped, and so is a backslash. -/
example : quotedName "it's\\\"~\"".toList = "\"it\\'s\\\\\\\"~\\\"\"".toList := by
  decide +kernel

end Text

end TruthTables
