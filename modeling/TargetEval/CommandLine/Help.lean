import TargetEval.CommandLine.Flag

set_option autoImplicit false

namespace TargetEval.CommandLine

def Flag.placeholder (f : Flag) : String :=
  match f.effect with
  | .takes _ placeholder => " <" ++ placeholder ++ ">"
  | _ => ""

def Flag.names (f : Flag) : String :=
  let short := match f.short with
    | some c => "-" ++ String.singleton c ++ ", "
    | none => "    "
  short ++ "--" ++ f.long ++ f.placeholder

def padded (width : Nat) (text : String) : String :=
  text ++ String.ofList (List.replicate (width - text.length) ' ')

def tableText (title : String) (rows : List (String × String)) : String :=
  let width := (rows.map fun row => row.1.length).foldl Nat.max 0
  title ++ ":\n" ++ String.join (rows.map fun row => "  " ++ padded (width + 2) row.1 ++ row.2 ++ "\n")

def flagTable (flags : List Flag) : String :=
  tableText "Options" (flags.map fun f => (f.names, f.about))

def Command.requirements (c : Command) : String :=
  String.join ((c.flags.filter Flag.isRequired).map fun f => " --" ++ f.long ++ f.placeholder)
    ++ (c.operand.map fun o => " <" ++ o.placeholder ++ ">").getD ""

def Command.help (c : Command) : String :=
  let operands := match c.operand with
    | some o => tableText "Arguments" [("<" ++ o.placeholder ++ ">", o.about)] ++ "\n"
    | none => ""
  c.about ++ "\n\nUsage: " ++ Command.program.name ++ " " ++ c.name ++ " [OPTIONS]" ++ c.requirements
    ++ "\n\n" ++ operands ++ flagTable c.flags

def helpAbout : String := "Print this message or the help of the given subcommand(s)"

def programHelp : String :=
  Command.program.about ++ "\n\nUsage: " ++ Command.program.name ++ " [OPTIONS] <COMMAND>\n\n"
    ++ tableText "Commands"
      ((Command.all.map fun c => (c.name, c.about)) ++ [("help", helpAbout)])
    ++ "\n" ++ flagTable Command.program.flags

def helpHelp : String :=
  helpAbout ++ "\n\nUsage: " ++ Command.program.name ++ " help [COMMAND]...\n\n"
    ++ tableText "Arguments" [("[COMMAND]...", "Print help for the subcommand(s)")]

def versionText : String := Command.program.name ++ " 0.1.0\n"

end TargetEval.CommandLine
