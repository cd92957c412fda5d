import TruthTables.Table.Render

/-!
# What a run is asked to do

The program is called with the name of one file and with options: when to color
what is printed, whether to leave titles out, and how much of the log to show.
More of the log can be asked for any number of times; the number is kept in a
byte, and counting ends with the largest that a byte can hold.

## Main definitions

* `Options` — what a run is asked to do.
* `Options.asking o n` — the same, with more of the log asked for `n` times.
* `Options.style` — how to print.
* `Invocation` — what some arguments come to.
-/

namespace TruthTables

/-- When to color what is printed. -/
inductive ColorMode
  /-- If it is printed on a terminal. -/
  | auto
  /-- In any case. -/
  | always
  /-- In no case. -/
  | never
  deriving DecidableEq, Repr

/-- What a run is asked to do. -/
structure Options where
  /-- When to color what is printed. -/
  color : ColorMode
  /-- Whether to print each formula above its table. -/
  title : Bool
  /-- How much of the log to show. -/
  verbosity : UInt8
  /-- The name of the file to read. -/
  file : Text
  deriving DecidableEq, Repr

namespace Options

/-- The verbosity if more of the log is asked for `n` times. -/
def verbosityOf (n : Nat) : UInt8 := UInt8.ofNat (min n 255)

@[simp] theorem toNat_verbosityOf (n : Nat) : (verbosityOf n).toNat = min n 255 := by
  rw [verbosityOf, UInt8.toNat_ofNat']
  omega

/-- The same options, with more of the log asked for `n` times. -/
def asking (o : Options) (n : Nat) : Options := { o with verbosity := verbosityOf n }

/-- How to print, when the output is a terminal or is none. -/
def style (o : Options) (isTerminal : Bool) : Style where
  color := match o.color with
    | .auto => isTerminal
    | .always => true
    | .never => false
  title := o.title

/-- Whether the file is the standard input.  Its name is a single hyphen, which
stays the same name with slashes and `.` as further components. -/
def readsStandardInput (o : Options) : Bool :=
  match o.file.splitOn '/' with
  | [] => false
  | first :: others => first == ['-'] && others.all fun c => c == [] || c == ['.']

end Options

/-- Why arguments cannot be accepted. -/
inductive Misuse
  /-- There is no such option. -/
  | unknownOption (option : Text)
  /-- An option that may come once comes again. -/
  | repeatedOption (option : Text)
  /-- An option lacks its value. -/
  | missingValue (option : Text)
  /-- An option that takes no value has one. -/
  | unexpectedValue (option : Text)
  /-- An option has a value that it cannot have. -/
  | invalidValue (option value : Text)
  /-- There is no file. -/
  | missingFile
  /-- The name of the file is empty. -/
  | emptyFile
  /-- There is a second file. -/
  | extraFile (file : Text)
  deriving DecidableEq, Repr

/-- What some arguments come to. -/
inductive Invocation
  /-- They ask for help. -/
  | help
  /-- They ask for the version. -/
  | version
  /-- They cannot be accepted. -/
  | misuse (reason : Misuse)
  /-- They ask for a run. -/
  | run (options : Options)
  deriving DecidableEq, Repr

end TruthTables
