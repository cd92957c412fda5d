import TruthTables.CommandLine.Options
import TruthTables.LineError.Inspect
import TruthTables.Report
import TruthTables.Worksheet

/-!
# A run of the program

A run reads a whole text and works out its lines one after the other.  Tables go
to the standard output, reports to the standard error, and the log tells what is
done.  A line without a table is no failure of the run.  But a write may fail, be
it for a table, for a report, or for what has been kept back until the end, and
then the run has failed and goes no further.

## Main definitions

* `Event`, `events` — what a run has to print and to log, in order.
* `Course`, `Course.attempt` — how far a run gets, if some of its writes fail.
* `Transcript` — what can be seen of a run from outside.
* `Invocation.attempt`, `Invocation.transcript` — the run that some arguments ask
  for, and what it comes to if all writes succeed.
-/

namespace TruthTables

/-- A thing that happens during a run. -/
inductive Event
  /-- Something goes to the standard output. -/
  | output (text : Text)
  /-- Something goes to the standard error. -/
  | report (text : Text)
  /-- What was kept back goes out to the standard output. -/
  | flush
  /-- Something is logged. -/
  | log (record : Record)
  deriving DecidableEq, Repr

namespace Event

/-- What goes to the standard output. -/
def output? : Event → Option Text
  | output t => some t
  | report _ => none
  | flush => none
  | log _ => none

/-- What goes to the standard error. -/
def report? : Event → Option Text
  | output _ => none
  | report t => some t
  | flush => none
  | log _ => none

/-- What is logged. -/
def log? : Event → Option Record
  | output _ => none
  | report _ => none
  | flush => none
  | log r => some r

/-- Whether the run depends on it that something can be written.  It does not on the log. -/
def isWrite : Event → Bool
  | output _ => true
  | report _ => true
  | flush => true
  | log _ => false

end Event

/-! ### Records -/

/-- A text has been read. -/
def loadedRecord (byteCount : Nat) (file : Text) : Record :=
  ⟨.info, "Loaded ".toList ++ Text.ofNat byteCount ++ " bytes from ".toList ++ Text.quotedName file⟩

/-- A line has no table. -/
def rejectedRecord (number : Nat) (e : LineError) : Record :=
  ⟨.debug, "line ".toList ++ Text.ofNat number ++ " rejected: ".toList ++ e.inspect⟩

/-- All lines have been worked out. -/
def processedRecord (s : Summary) : Record :=
  ⟨.info, "Processed ".toList ++ Text.ofNat s.lines ++ " expressions: ".toList ++
    Text.ofNat s.tables ++ " tables, ".toList ++ Text.ofNat s.failures ++ " errors".toList⟩

/-! ### Events -/

/-- What happens for a line: its records, and then its table followed by an empty
line, or a record of its error and a report. -/
def Entry.events (s : Style) (e : Entry) : List Event :=
  e.build.log.map .log ++
    match e.result with
    | .ok table => [.output (table.render s ++ ['\n'])]
    | .error error =>
      [.log (rejectedRecord e.line.number error), .report (report s e.line.content error)]

/-- What happens for a text that is read from a file, if all writes succeed. -/
def events (s : Style) (file source : Text) : List Event :=
  .log (loadedRecord source.byteCount file) ::
    ((worksheet source).flatMap (Entry.events s) ++
      [.flush, .log (processedRecord (Summary.ofEntries (worksheet source)))])

/-- How far a run gets. -/
structure Course where
  /-- What happens. -/
  events : List Event
  /-- No write fails. -/
  finished : Bool
  deriving DecidableEq, Repr

namespace Course

/-- Something happens before all else. -/
def after (e : Event) (c : Course) : Course := ⟨e :: c.events, c.finished⟩

/-- How far a run gets when `n` writes have been made, and the write with the number `k` succeeds
if `w k`.  The first write that fails ends the run; how much of its text has got through is not
told. -/
def attempt (w : Nat → Bool) : Nat → List Event → Course
  | _, [] => ⟨[], true⟩
  | n, e :: es =>
    if e.isWrite then
      if w n then (attempt w (n + 1) es).after e else ⟨[], false⟩
    else (attempt w n es).after e

end Course

/-! ### Transcripts -/

/-- What can be seen of a run from outside. -/
structure Transcript where
  /-- The code with which it ends. -/
  exitCode : Nat
  /-- What it puts on the standard output. -/
  output : Text
  /-- What it puts on the standard error, the log aside. -/
  reports : Text
  /-- What it shows of the log. -/
  log : List Record
  deriving DecidableEq, Repr

/-- What can be seen of a run when so much of the log is shown. -/
def Course.transcribe (verbosity : UInt8) (c : Course) : Transcript where
  exitCode := if c.finished then 0 else 1
  output := (c.events.filterMap Event.output?).flatten
  reports := (c.events.filterMap Event.report?).flatten
  log := (c.events.filterMap Event.log?).filter fun r => r.level.isShown verbosity

/-- The name of the program and its version. -/
def versionLine : Text := "proptable 0.1.0\n".toList

/-- How to call the program. -/
def usage : Text :=
  ["Print a truth table for each expression in a file",
    "",
    "Usage: proptable [OPTIONS] <FILE>",
    "",
    "Options:",
    "      --color <COLOR>  auto, always or never [default: auto]",
    "      --no-title       leave out the expression above its table",
    "  -v, --verbose        show more of the log; up to three times",
    "  -h, --help           print help",
    "  -V, --version        print version"].flatMap fun line => line.toList ++ ['\n']

namespace Invocation

/-- The run that some arguments ask for, where the write with the number `k` succeeds if `w k`.  The
text in the file, if it can be read and is text, is `source?`. -/
def attempt (w : Nat → Bool) (isTerminal : Bool) (source? : Option Text) : Invocation → Transcript
  | help => ⟨0, usage, [], []⟩
  | version => ⟨0, versionLine, [], []⟩
  | misuse _ => ⟨2, [], [], []⟩
  | run o =>
    match source? with
    | none => ⟨1, [], [], []⟩
    | some source =>
      (Course.attempt w 0 (events (o.style isTerminal) o.file source)).transcribe o.verbosity

/-- The run that some arguments ask for, where all writes succeed. -/
def transcript (isTerminal : Bool) (source? : Option Text) (i : Invocation) : Transcript :=
  i.attempt (fun _ => true) isTerminal source?

end Invocation

end TruthTables
