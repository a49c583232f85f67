import TargetEval.Error
import TargetEval.Number.Decimal
import TargetEval.Text.Basic

set_option autoImplicit false

namespace TargetEval

structure EvaluatorSettings where
  maxDepth : Nat
  parallelArguments : Bool
  lenientGrouping : Bool
  recordsMetrics : Bool
deriving DecidableEq, Repr

structure LoggingSettings where
  level : String
  withTarget : Bool
deriving DecidableEq, Repr

structure Settings where
  evaluator : EvaluatorSettings
  logging : LoggingSettings
deriving DecidableEq, Repr

namespace Settings

def default : Settings :=
  { evaluator :=
      { maxDepth := 64, parallelArguments := false, lenientGrouping := true, recordsMetrics := true }
    logging := { level := "warn", withTarget := true } }

def check (s : Settings) : Except Error Unit :=
  if s.evaluator.maxDepth = 0 then .error (.configuration "Max recursion depth must be > 0")
  else if 10000 < s.evaluator.maxDepth then
    .error (.configuration "Max recursion depth cannot exceed 10000")
  else if s.logging.level.toList.all isBlank then
    .error (.configuration "Log level cannot be empty")
  else .ok ()

end Settings

structure SettingsLayer where
  maxDepth : Option Nat
  parallelArguments : Option Bool
  lenientGrouping : Option Bool
  recordsMetrics : Option Bool
  logLevel : Option String
  logsTarget : Option Bool
deriving DecidableEq, Repr

namespace SettingsLayer

def empty : SettingsLayer := ⟨none, none, none, none, none, none⟩

def above (upper lower : SettingsLayer) : SettingsLayer :=
  { maxDepth := upper.maxDepth <|> lower.maxDepth
    parallelArguments := upper.parallelArguments <|> lower.parallelArguments
    lenientGrouping := upper.lenientGrouping <|> lower.lenientGrouping
    recordsMetrics := upper.recordsMetrics <|> lower.recordsMetrics
    logLevel := upper.logLevel <|> lower.logLevel
    logsTarget := upper.logsTarget <|> lower.logsTarget }

def settings (layer : SettingsLayer) : Settings :=
  let base := Settings.default
  { evaluator :=
      { maxDepth := layer.maxDepth.getD base.evaluator.maxDepth
        parallelArguments := layer.parallelArguments.getD base.evaluator.parallelArguments
        lenientGrouping := layer.lenientGrouping.getD base.evaluator.lenientGrouping
        recordsMetrics := layer.recordsMetrics.getD base.evaluator.recordsMetrics }
    logging :=
      { level := layer.logLevel.getD base.logging.level
        withTarget := layer.logsTarget.getD base.logging.withTarget } }

end SettingsLayer

abbrev Environment := String → Option String

namespace Environment

def natural? (text : String) : Option Nat :=
  let digits := match text.toList with
    | '+' :: rest => rest
    | cs => cs
  let n := Decimal.ofDigits digits
  if !digits.isEmpty && digits.all Char.isDigit && n < Nat.pow 2 64 then some n else none

def flag? (text : String) : Option Bool :=
  let word := String.ofList (text.toList.map Char.toLower)
  if word ∈ ["1", "true", "yes", "on"] then some true
  else if word ∈ ["0", "false", "no", "off"] then some false
  else none

def settings (env : Environment) : SettingsLayer :=
  { maxDepth := (env "KUBA_EVAL_MAX_DEPTH").bind natural?
    parallelArguments := (env "KUBA_EVAL_PARALLEL").bind flag?
    lenientGrouping := (env "KUBA_EVAL_LENIENT_GROUP_BY").bind flag?
    recordsMetrics := (env "KUBA_EVAL_METRICS").bind flag?
    logLevel := env "RUST_LOG"
    logsTarget := none }

end Environment

end TargetEval
