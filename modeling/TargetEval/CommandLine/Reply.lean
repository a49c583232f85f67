import TargetEval.CommandLine.Request
import TargetEval.Descriptor.Document
import TargetEval.Evaluation.Evaluator
import TargetEval.Function.Builtin
import TargetEval.Series.Document
import TargetEval.Telemetry.Basic

set_option autoImplicit false

namespace TargetEval.CommandLine

inductive Failure where
  | usage
  | failed (e : Error)
  | unreadable (path : String)
  | malformed (path : String)

def Failure.exitCode : Failure → Nat
  | usage => 2
  | _ => 1

structure Report where
  output : String
  telemetry : Telemetry

def reported {α : Type} (result : Except Error α) : Except Failure α := result.mapError .failed

def seriesText (series : List Series) : String :=
  (Json.array (series.map Series.toJson)).indentedText ++ "\n"

def orNone : Except Error (List Series) → Except Error (List Series)
  | .ok series => .ok series
  | .error e => if e.isNoData then .ok [] else .error e

def evaluation (settings : Settings) (fetched : Fetched) (start? stop? : Option Seconds) (target : String) :
    Except Error Report := do
  let window := fetched.window start? stop?
  let index ← fetched.index window
  let evaluator := Evaluator.ofRegistry Builtin.registry settings.evaluator
  let answer := evaluator.evaluateTarget target window index
  let series ← orNone answer.outcome
  return {
    output := seriesText series
    telemetry := answer.events.foldl Telemetry.record (Telemetry.start Builtin.registry.size) }

def description (name? : Option String) : Except Error String :=
  let catalogue := Builtin.registry.catalogue Function.descriptors
  match name? with
  | none =>
      .ok ((Json.ofMembers (catalogue.map fun (name, d) => (name, d.toJson))).indentedText ++ "\n")
  | some name =>
      match catalogue.find? name with
      | some d => .ok (d.toJson.indentedText ++ "\n")
      | none => .error (.unknownFunction name 0)

def settingsText (settings : Settings) : Except Error String := do
  return "Configuration is valid\n" ++ (← settings.save) ++ "\n"

def perform (files : Files) (settings : Settings) : Task → Except Failure Report
  | .evaluate data start? stop? target =>
      match files data with
      | none => .error (.unreadable data)
      | some text =>
          match Fetched.read? text with
          | none => .error (.malformed data)
          | some fetched => reported (evaluation settings fetched start? stop? target)
  | .describe name? => do return ⟨← reported (description name?), Telemetry.start 0⟩
  | .checkSettings => do return ⟨← reported (settingsText settings), Telemetry.start 0⟩

def fulfil (files : Files) (env : Environment) (request : Request) : Except Failure Report := do
  let settings ← reported (Settings.loadValid files (request.settingsFile? env) env)
  perform files settings request.task

def reply (files : Files) (env : Environment) (arguments : List String) : Except Failure Report :=
  match Request.ofArguments arguments with
  | .error .usage => .error .usage
  | .error (.shown text) => .ok ⟨text, Telemetry.start 0⟩
  | .ok request => fulfil files env request

end TargetEval.CommandLine
