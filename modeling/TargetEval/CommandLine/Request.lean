import TargetEval.CommandLine.Arguments
import TargetEval.Settings.Loading

set_option autoImplicit false

namespace TargetEval.CommandLine

inductive Task where
  | evaluate (data : String) (start? stop? : Option Seconds) (target : String)
  | describe (name? : Option String)
  | checkSettings
deriving DecidableEq, Repr

structure Request where
  task : Task
  settingsPath? : Option String
  showsMetrics : Bool
deriving DecidableEq, Repr

def Task.ofGiven? (c : Command) (g : Given) : Option Task :=
  if c = Command.evaluate then do
    let target ← g.operands.head?
    let data ← g.value? .data
    return .evaluate data ((g.value? .start).bind Seconds.read?) ((g.value? .stop).bind Seconds.read?) target
  else if c = Command.functions then some (.describe (g.value? .name))
  else if c = Command.checkSettings then some .checkSettings
  else none

def helpOn : List String → Stop
  | [] => .shown programHelp
  | [name] =>
      if name = "help" then .shown helpHelp
      else
        match Command.all.find? fun c => c.name = name with
        | some c => .shown c.help
        | none => .usage
  | _ => .usage

namespace Request

def ofArguments (arguments : List String) : Except Stop Request := do
  let (front, rest) ← readArguments .program programHelp true .empty arguments
  match rest with
  | [] => .error .usage
  | word :: behind =>
      if word = "help" then .error (helpOn behind)
      else
        match Command.all.find? fun c => c.name = word with
        | none => .error .usage
        | some c =>
            let (own, _) ← readArguments c c.help false .empty behind
            match Task.ofGiven? c own with
            | none => .error .usage
            | some task =>
                return {
                  task
                  settingsPath? := own.value? .settings <|> front.value? .settings
                  showsMetrics := own.has .metrics || front.has .metrics }

def settingsFile? (r : Request) (env : Environment) : Option String :=
  r.settingsPath? <|> env "KUBA_EVAL_CONFIG"

def paths (r : Request) (env : Environment) : List String :=
  let data := match r.task with
    | .evaluate data _ _ _ => [data]
    | _ => []
  (r.settingsFile? env).toList ++ data

end Request

end TargetEval.CommandLine
