set_option autoImplicit false

namespace TargetEval.CommandLine

inductive ValueKind where
  | path
  | text
  | seconds
deriving DecidableEq, Repr

inductive Effect where
  | takes (kind : ValueKind) (placeholder : String)
  | switch
  | help
  | version
deriving DecidableEq, Repr

structure Flag where
  short : Option Char
  long : String
  effect : Effect
  isRequired : Bool
  about : String
deriving DecidableEq, Repr

structure Operand where
  placeholder : String
  about : String
deriving DecidableEq, Repr

structure Command where
  name : String
  about : String
  flags : List Flag
  operand : Option Operand
deriving DecidableEq, Repr

namespace Flag

def settings : Flag :=
  { short := some 'c', long := "config", effect := .takes .path "CONFIG", isRequired := false
    about := "Path to configuration file (overrides KUBA_EVAL_CONFIG env var)" }

def metrics : Flag :=
  { short := none, long := "metrics", effect := .switch, isRequired := false
    about := "Print Prometheus metrics to stderr before exiting" }

def data : Flag :=
  { short := some 'd', long := "data", effect := .takes .path "DATA", isRequired := true
    about := "JSON file mapping metric patterns to fetched series" }

def start : Flag :=
  { short := none, long := "from", effect := .takes .seconds "FROM", isRequired := false
    about := "Window start (defaults to the earliest series start)" }

def stop : Flag :=
  { short := none, long := "until", effect := .takes .seconds "UNTIL", isRequired := false
    about := "Window end (defaults to the latest series stop)" }

def name : Flag :=
  { short := some 'n', long := "name", effect := .takes .text "NAME", isRequired := false
    about := "Only show this function" }

def help : Flag :=
  { short := some 'h', long := "help", effect := .help, isRequired := false, about := "Print help" }

def version : Flag :=
  { short := some 'V', long := "version", effect := .version, isRequired := false
    about := "Print version" }

end Flag

namespace Command

def shared : List Flag := [.settings, .metrics]

def program : Command :=
  { name := "kuba-eval"
    about := "Evaluate Graphite targets against pre-fetched series"
    flags := shared ++ [.help, .version]
    operand := none }

def evaluate : Command :=
  { name := "eval"
    about := "Evaluate a target and print the resulting series as JSON"
    flags := [.data, .start, .stop] ++ shared ++ [.help]
    operand := some ⟨"TARGET", "Target expression"⟩ }

def functions : Command :=
  { name := "functions"
    about := "Print function descriptors as JSON"
    flags := [.name] ++ shared ++ [.help]
    operand := none }

def checkSettings : Command :=
  { name := "check-config"
    about := "Validate configuration and print it"
    flags := shared ++ [.help]
    operand := none }

def all : List Command := [evaluate, functions, checkSettings]

end Command

end TargetEval.CommandLine
