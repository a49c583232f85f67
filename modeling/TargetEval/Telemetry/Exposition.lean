import TargetEval.Telemetry.Basic

set_option autoImplicit false

namespace TargetEval.Exposition

def labelChar (c : Char) : List Char :=
  if c = '\\' then ['\\', '\\']
  else if c = '"' then ['\\', '"']
  else if c = '\n' then ['\\', 'n']
  else [c]

def label (name value : String) : String :=
  name ++ "=\"" ++ String.ofList (value.toList.flatMap labelChar) ++ "\""

def sample (name : String) (labels : List String) (value : String) : String :=
  let braces := if labels.isEmpty then "" else "\x7b" ++ ",".intercalate labels ++ "\x7d"
  name ++ braces ++ " " ++ value

def family (name help type : String) (samples : List String) : List String :=
  if samples.isEmpty then []
  else ["# HELP " ++ name ++ " " ++ help, "# TYPE " ++ name ++ " " ++ type] ++ samples

def cumulative (counts : List Nat) : List Nat :=
  (counts.foldl (fun sums n => sums ++ [sums.getLast?.getD 0 + n]) [])

def durationName : String := "kuba_graphite_evaluation_duration_seconds"

def durationSamples (function : String) (h : Histogram) : List String :=
  let ofFunction := label "function" function
  let bucket (bound : String) (n : Nat) : String :=
    sample (durationName ++ "_bucket") [ofFunction, label "le" bound] (toString n)
  (durationBounds.zip (cumulative h.counts)).map (fun (bound, n) => bucket (numberText bound) n)
    ++ [bucket "+Inf" h.total,
      sample (durationName ++ "_sum") [ofFunction] (numberText h.sum),
      sample (durationName ++ "_count") [ofFunction] (toString h.total)]

def evaluationSamples (function : String) (tally : Tally) : List String :=
  [("error", tally.failed), ("success", tally.succeeded)].filterMap fun (status, n) =>
    if n = 0 then none
    else some (sample "kuba_graphite_evaluations_total"
      [label "function" function, label "status" status] (toString n))

def lines (t : Telemetry) : List String :=
  family durationName "Function evaluation latency in seconds" "histogram"
      (t.evaluations.flatMap fun (function, tally) => durationSamples function tally.durations)
    ++ family "kuba_graphite_evaluations_total" "Total function evaluations" "counter"
      (t.evaluations.flatMap fun (function, tally) => evaluationSamples function tally)
    ++ family "kuba_graphite_groups_dropped_total"
      "Total groups dropped after a failed callback evaluation" "counter"
      (t.dropped.map fun (function, n) =>
        sample "kuba_graphite_groups_dropped_total" [label "function" function] (toString n))
    ++ family "kuba_graphite_registered_functions" "Number of registered function names" "gauge"
      [sample "kuba_graphite_registered_functions" [] (numberText (Float.ofNat t.registered))]

def text (t : Telemetry) : String := String.join ((lines t).map (· ++ "\n"))

end TargetEval.Exposition
