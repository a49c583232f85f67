import TargetEval.CommandLine.Reply
import TargetEval.Telemetry.Exposition

set_option autoImplicit false

namespace TargetEval.CommandLine

def variableNames : List String :=
  ["KUBA_EVAL_CONFIG", "KUBA_EVAL_MAX_DEPTH", "KUBA_EVAL_PARALLEL", "KUBA_EVAL_LENIENT_GROUP_BY",
    "KUBA_EVAL_METRICS", "RUST_LOG"]

def environment : IO Environment := do
  let mut pairs : List (String × String) := []
  for name in variableNames do
    if let some value ← IO.getEnv name then pairs := (name, value) :: pairs
  let found := pairs
  return fun name => found.lookup name

def fileContents (paths : List String) : IO Files := do
  let mut pairs : List (String × String) := []
  for path in paths do
    try pairs := (path, ← IO.FS.readFile path) :: pairs
    catch _ => pure ()
  let found := pairs
  return fun path => found.lookup path

def failureText : Failure → String
  | .usage => "error: the arguments do not fit; try --help"
  | .failed e => "Error: " ++ e.message
  | .unreadable path => "Error: cannot read " ++ path
  | .malformed path => "Error: no series in " ++ path

def run (arguments : List String) : IO UInt32 := do
  let env ← environment
  let request := Request.ofArguments arguments
  let files ← fileContents (match request with
    | .ok r => r.paths env
    | .error _ => [])
  match reply files env arguments with
  | .error failure =>
      IO.eprintln (failureText failure)
      return failure.exitCode.toUInt32
  | .ok report =>
      IO.print report.output
      if request.toOption.any Request.showsMetrics then
        IO.eprintln (Exposition.text report.telemetry)
      return 0

end TargetEval.CommandLine

def main (arguments : List String) : IO UInt32 := TargetEval.CommandLine.run arguments
