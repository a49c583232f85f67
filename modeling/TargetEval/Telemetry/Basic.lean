import TargetEval.ByName
import TargetEval.Evaluation.Answer
import TargetEval.Number.Layout

set_option autoImplicit false

namespace TargetEval

def durationBounds : List Float := [0.00001, 0.0001, 0.001, 0.01, 0.1, 1.0]

structure Histogram where
  counts : List Nat
  total : Nat
  sum : Float

namespace Histogram

def empty : Histogram := ⟨durationBounds.map fun _ => 0, 0, 0.0⟩

def count (seconds : Float) : List Float → List Nat → List Nat
  | bound :: bounds, n :: counts =>
      if seconds ≤ bound then (n + 1) :: counts else n :: count seconds bounds counts
  | _, counts => counts

def observe (h : Histogram) (seconds : Float) : Histogram :=
  ⟨count seconds durationBounds h.counts, h.total + 1, h.sum + seconds⟩

end Histogram

structure Tally where
  succeeded : Nat
  failed : Nat
  durations : Histogram

structure Telemetry where
  evaluations : ByName Tally
  dropped : ByName Nat
  registered : Nat

namespace Telemetry

def start (registered : Nat) : Telemetry := ⟨[], [], registered⟩

def evaluated (t : Telemetry) (function : String) (succeeded : Bool) (seconds : Float) : Telemetry :=
  let tally := (t.evaluations.find? function).getD ⟨0, 0, Histogram.empty⟩
  let tally : Tally :=
    { succeeded := if succeeded then tally.succeeded + 1 else tally.succeeded
      failed := if succeeded then tally.failed else tally.failed + 1
      durations := tally.durations.observe seconds }
  { t with evaluations := t.evaluations.insert function tally }

def droppedGroup (t : Telemetry) (function : String) : Telemetry :=
  { t with dropped := t.dropped.insert function ((t.dropped.find? function).getD 0 + 1) }

def record (t : Telemetry) : Event → Telemetry
  | .evaluated function succeeded => t.evaluated function succeeded 0.0
  | .dropped function => t.droppedGroup function

end Telemetry

end TargetEval
