import TargetEval.Settings.Basic
import TargetEval.Toml.Document
import TargetEval.Toml.Quoted

set_option autoImplicit false

namespace TargetEval

namespace Toml.Value

def natural? : Value → Option Nat
  | .integer n => if n < 0 then none else some n.toInt.toNat
  | _ => none

def boolean? : Value → Option Bool
  | .boolean b => some b
  | _ => none

def text? : Value → Option String
  | .string text => some text
  | _ => none

def fields? (names : List String) : Value → Option (List (Option Value))
  | .table _ entries => some (names.map fun name => entries.lookup name)
  | .array items => some ((List.range names.length).map fun i => items[i]?)
  | .moment _ => some (names.map fun _ => none)
  | _ => none

end Toml.Value

namespace SettingsLayer

def given {α : Type} (read : Toml.Value → Option α) : Option Toml.Value → Option (Option α)
  | none => some none
  | some value => (read value).map some

def evaluatorNames : List String :=
  ["max_recursion_depth", "parallel_arguments", "lenient_group_by", "metrics_enabled"]

def loggingNames : List String := ["log_level", "with_target"]

def ofEvaluator? (record : Toml.Value) : Option SettingsLayer :=
  match record.fields? evaluatorNames with
  | some [depth, parallel, lenient, metrics] => do
      return { empty with
        maxDepth := ← given Toml.Value.natural? depth
        parallelArguments := ← given Toml.Value.boolean? parallel
        lenientGrouping := ← given Toml.Value.boolean? lenient
        recordsMetrics := ← given Toml.Value.boolean? metrics }
  | _ => none

def ofLogging? (record : Toml.Value) : Option SettingsLayer :=
  match record.fields? loggingNames with
  | some [level, target] => do
      return { empty with
        logLevel := ← given Toml.Value.text? level
        logsTarget := ← given Toml.Value.boolean? target }
  | _ => none

def ofEntries? (root : Toml.Entries) : Option SettingsLayer := do
  let evaluator ← given ofEvaluator? (root.lookup "evaluator")
  let logging ← given ofLogging? (root.lookup "logging")
  return (evaluator.getD empty).above (logging.getD empty)

def read? (text : String) : Option SettingsLayer := do ofEntries? (← Toml.read? text)

end SettingsLayer

namespace Settings

def flagText (b : Bool) : String := if b then "true" else "false"

def document? (s : Settings) : Option String :=
  if Nat.pow 2 63 ≤ s.evaluator.maxDepth then none
  else some
    ("[evaluator]\nmax_recursion_depth = " ++ toString s.evaluator.maxDepth
      ++ "\nparallel_arguments = " ++ flagText s.evaluator.parallelArguments
      ++ "\nlenient_group_by = " ++ flagText s.evaluator.lenientGrouping
      ++ "\nmetrics_enabled = " ++ flagText s.evaluator.recordsMetrics
      ++ "\n\n[logging]\nlog_level = " ++ Toml.quoted s.logging.level
      ++ "\nwith_target = " ++ flagText s.logging.withTarget ++ "\n")

def save (s : Settings) : Except Error String :=
  match s.document? with
  | some text => .ok text
  | none => .error (.configuration "Failed to serialize config")

end Settings

end TargetEval
