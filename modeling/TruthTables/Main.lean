import TruthTables.CommandLine.Arguments
import TruthTables.CommandLine.Run

/-!
# The program

Reads the file that the arguments name, and prints what the run comes to.
-/

namespace TruthTables

/-- The text in a file, or on the standard input, if it can be read and is text. -/
def readSource (o : Options) : IO (Option Text) := do
  try
    let bytes ←
      if o.readsStandardInput then (← IO.getStdin).readBinToEnd
      else IO.FS.readBinFile (String.ofList o.file)
    return (String.fromUTF8? bytes).map String.toList
  catch _ => return none

/-- How a record is shown. -/
def Record.line (r : Record) : Text := '[' :: r.level.name ++ "] ".toList ++ r.message ++ ['\n']

/-- What is said about a run that could not be made. -/
def Invocation.complaint : Invocation → Text
  | help => []
  | version => []
  | misuse _ => "error: these arguments cannot be accepted\n\n".toList ++ usage
  | run o => "error: failed to read '".toList ++ o.file ++ "'\n".toList

end TruthTables

open TruthTables in
/-- Runs the program. -/
def main (args : List String) : IO UInt32 := do
  let invocation := Invocation.ofArguments (args.map String.toList)
  let source? ← match invocation with
    | .run o => readSource o
    | _ => pure none
  let t := invocation.transcript (← (← IO.getStdout).isTty) source?
  IO.print (String.ofList t.output)
  IO.eprint (String.ofList (t.log.flatMap Record.line ++ t.reports))
  unless t.exitCode = 0 do IO.eprint (String.ofList invocation.complaint)
  return t.exitCode.toUInt32
