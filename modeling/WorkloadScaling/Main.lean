import Std.Time.DateTime.Timestamp
import WorkloadScaling.ControlPlane.Http
import WorkloadScaling.Program

/-!
# The command line

Reads the clock, the variables and the files that a run may look at, runs it, and prints what
comes of it.
No transport is linked in, so that every request ends as one that no server gets.
-/
namespace WorkloadScaling.Program

def readClock : IO Timestamp.Instant := do
  return (← Std.Time.Timestamp.now).toSecondsSinceUnixEpoch.val

def readVariables : IO Environment := do
  let values ← variableNames.mapM fun name => return (name, ← IO.getEnv name)
  return fun name => (values.lookup name).join.map String.toUTF8

def readFiles (paths : List String) : IO Files := do
  let contents ← paths.mapM fun (path : String) =>
    return (path, ← (IO.FS.readBinFile path).toBaseIO)
  return fun path =>
    match contents.lookup path with
    | some (.ok bytes) => some bytes
    | _ => none

def complaint : Ending → List String
  | .done | .brokenOff => []
  | .refused _ => [CommandLine.usageLine CommandLine.Level.top.usage]
  | .failed trouble =>
    ("Error: " ++ trouble.message) :: match trouble.cause? with
      | some e => ["", "Caused by:", "    " ++ e.message]
      | none => []

end WorkloadScaling.Program

open WorkloadScaling in
def main (words : List String) : IO UInt32 := do
  let env ← Program.readVariables
  let known ← Program.readFiles (Program.filesNamed env (fun _ => none) words)
  let files ← Program.readFiles (Program.filesNamed env known words)
  let api := fun _ => ControlPlane.ofServer (Http.Server.unreachable "no transport")
  let link : Link Unit := { server := () }
  let (result, _) := Program.run (← Program.readClock) env files api words link
  result.log.forM fun line => IO.eprintln line.display
  IO.print result.output
  (Program.complaint result.ending).forM fun line => IO.eprintln line
  return UInt32.ofNat result.ending.exitCode
