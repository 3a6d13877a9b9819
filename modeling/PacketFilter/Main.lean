/-
This file is the program. It takes its local zone from the environment variable `TZ`, and prints
what comes of its arguments.
-/

import PacketFilter.CommandLine.Report
import PacketFilter.Time.ZoneText

namespace PacketFilter.CommandLine

/-- The local zone that the environment names, or universal time. -/
def environmentZone : IO Zone := do
  let name ← IO.getEnv "TZ"
  return (name.bind Zone.ofText?).getD .utc

/-- Prints a diagnostic. -/
def printDiagnostic (cause : EvalError) : IO Unit := do
  IO.eprintln cause.code
  IO.eprintln cause.message
  match cause.help? with
  | some help => IO.eprintln ("help: " ++ help)
  | none => return ()

/-- Carries out the command line. The exit code is 1 after a diagnostic, and 2 if the arguments
are refused. -/
def runProgram (arguments : List String) : IO UInt32 := do
  match Arguments.read arguments with
  | .error refusal =>
    IO.eprintln ("error: " ++ refusal.message?.getD "the arguments are not understood")
    return 2
  | .ok understood =>
    match understood.run (← environmentZone) with
    | .ok output =>
      IO.print output
      return 0
    | .error (.error cause) =>
      printDiagnostic cause
      return 1
    | .error (.fault fault) =>
      IO.eprintln fault.message
      return 101

end PacketFilter.CommandLine

/-- The program. -/
def main (arguments : List String) : IO UInt32 :=
  PacketFilter.CommandLine.runProgram arguments
