import TruthTables.CommandLine.Options

/-!
# Arguments

Options may come in any order, before or after the file: `--color WHEN` or
`--color=WHEN`, `--no-title`, `--verbose` or `-v` any number of times, `--help`
or `-h`, `--version` or `-V`.  Letters after a single hyphen may be run together.
After the argument `--` there are no more options.

Arguments are read from left to right, and the first that cannot be accepted, or
that asks for help or for the version, settles what is done.  This is the outer
edge of the program: a run depends on its options only, however they were given.

## Main definitions

* `Given` — what the arguments read so far have given.
* `Invocation.ofArguments` — what some arguments come to.
-/

namespace TruthTables

/-- The mode with a name. -/
def ColorMode.ofName? (name : Text) : Option ColorMode :=
  if name = "auto".toList then some auto
  else if name = "always".toList then some always
  else if name = "never".toList then some never
  else none

/-! ### Reading arguments -/

/-- What the arguments read so far have given. -/
structure Given where
  /-- The color mode. -/
  color : Option ColorMode
  /-- Titles are switched off. -/
  noTitle : Bool
  /-- How often more of the log was asked for. -/
  verbosity : Nat
  /-- The name of the file. -/
  file : Option Text
  deriving DecidableEq, Repr

namespace Given

/-- Nothing has been given. -/
def nothing : Given := ⟨none, false, 0, none⟩

/-- Asks for more of the log. -/
def addVerbosity (g : Given) : Given := { g with verbosity := g.verbosity + 1 }

/-- Gives the option `--color` a value. -/
def setColor (g : Given) (value : Text) : Except Invocation Given :=
  match g.color, ColorMode.ofName? value with
  | some _, _ => .error (.misuse (.repeatedOption "--color".toList))
  | none, none => .error (.misuse (.invalidValue "--color".toList value))
  | none, some mode => .ok { g with color := some mode }

/-- Switches titles off. -/
def setNoTitle (g : Given) : Except Invocation Given :=
  if g.noTitle then .error (.misuse (.repeatedOption "--no-title".toList))
  else .ok { g with noTitle := true }

/-- Gives the name of the file. -/
def setFile (g : Given) (name : Text) : Except Invocation Given :=
  match g.file with
  | some _ => .error (.misuse (.extraFile name))
  | none => if name = [] then .error (.misuse .emptyFile) else .ok { g with file := some name }

/-- Reads letters that follow a single hyphen. -/
def readLetters (g : Given) : Text → Except Invocation Given
  | [] => .ok g
  | c :: cs =>
    if c = 'v' then readLetters g.addVerbosity cs
    else if c = 'V' then .error .version
    else if c = 'h' then .error .help
    else .error (.misuse (.unknownOption ['-', c]))

/-- Reads a word that follows two hyphens, and is not that of an option with a
value. -/
def readWord (g : Given) (word : Text) : Except Invocation Given :=
  if word = "verbose".toList then .ok g.addVerbosity
  else if word = "no-title".toList then g.setNoTitle
  else if word = "version".toList then .error .version
  else if word = "help".toList then .error .help
  else .error (.misuse (.unknownOption ('-' :: '-' :: word)))

/-- Reads a word that follows two hyphens and has a value attached to it. -/
def readWordWithValue (g : Given) (word value : Text) : Except Invocation Given :=
  if word = "color".toList then g.setColor value
  else if word ∈ ["verbose".toList, "no-title".toList, "version".toList, "help".toList] then
    .error (.misuse (.unexpectedValue ('-' :: '-' :: word)))
  else .error (.misuse (.unknownOption ('-' :: '-' :: word)))

/-- Reads arguments none of which is an option. -/
def readFiles (g : Given) : List Text → Except Invocation Given
  | [] => .ok g
  | name :: names =>
    match g.setFile name with
    | .error i => .error i
    | .ok g => readFiles g names

/-- Whether an argument has the form of an option.  A single hyphen has not. -/
def looksLikeOption : Text → Bool
  | '-' :: _ :: _ => true
  | _ => false

/-- Reads one argument that needs nothing from those after it. -/
def readArgument (g : Given) : Text → Except Invocation Given
  | '-' :: '-' :: word =>
    if '=' ∈ word then
      g.readWordWithValue (word.takeWhile (· != '=')) ((word.dropWhile (· != '=')).drop 1)
    else g.readWord word
  | '-' :: c :: cs => g.readLetters (c :: cs)
  | name => g.setFile name

/-- Reads arguments. -/
def readArguments (g : Given) : List Text → Except Invocation Given
  | [] => .ok g
  | arg :: args =>
    if arg = "--".toList then readFiles g args
    else if arg = "--color".toList then
      match args with
      | [] => .error (.misuse (.missingValue arg))
      | value :: args =>
        if looksLikeOption value then .error (.misuse (.missingValue arg))
        else match g.setColor value with
          | .error i => .error i
          | .ok g => readArguments g args
    else match g.readArgument arg with
      | .error i => .error i
      | .ok g => readArguments g args

/-- What all arguments together come to. -/
def invocation (g : Given) : Invocation :=
  match g.file with
  | none => .misuse .missingFile
  | some file => .run ⟨g.color.getD .auto, !g.noTitle, Options.verbosityOf g.verbosity, file⟩

end Given

/-- What some arguments come to. -/
def Invocation.ofArguments (args : List Text) : Invocation :=
  match Given.nothing.readArguments args with
  | .error i => i
  | .ok g => g.invocation

/-- Options may come after the file, and letters may be run together. -/
example : Invocation.ofArguments ["-vv".toList, "-".toList, "--no-title".toList, "-v".toList] =
    .run ⟨.auto, false, 3, "-".toList⟩ := by decide

/-- After `--` everything is the name of a file. -/
example : Invocation.ofArguments ["--".toList, "-v".toList] = .run ⟨.auto, true, 0, "-v".toList⟩ := by
  decide

/-- The first argument that settles the matter does so, whatever follows. -/
example : Invocation.ofArguments ["-V".toList, "--color".toList] = .version ∧
    Invocation.ofArguments ["--color".toList, "-V".toList] =
      .misuse (.missingValue "--color".toList) := by decide

end TruthTables
