import Constituency.CommandLine

namespace Constituency.CommandLine

def timingTail (request : Request) (reply : Reply) (terminal : Bool)
    (nanoseconds : Nat) : String :=
  match request with
  | .parse arguments =>
    if reply.exit = 2 ∨ arguments.json then ""
    else Report.timing (usesColour arguments terminal) nanoseconds
  | _ => ""

end Constituency.CommandLine

open Constituency

def main (arguments : List String) : IO UInt32 := do
  match Arguments.read arguments with
  | .error cause =>
    (← IO.getStderr).putStr ("error: " ++ cause.message ++ "\n\n" ++ CommandLine.usageText)
    return 2
  | .ok request =>
    let standardInput ←
      if CommandLine.needsStandardInput request then (← IO.getStdin).readBinToEnd
      else pure ByteArray.empty
    let terminal ← (← IO.getStdout).isTty
    let started ← IO.monoNanosNow
    let reply := CommandLine.answer request standardInput terminal
    (← IO.getStdout).putStr reply.output
    (← IO.getStderr).putStr reply.errors
    let ended ← IO.monoNanosNow
    (← IO.getStdout).putStr (CommandLine.timingTail request reply terminal (ended - started))
    return reply.exit.toUInt32
