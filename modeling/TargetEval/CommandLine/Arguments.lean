import TargetEval.CommandLine.Help
import TargetEval.Time.Seconds

set_option autoImplicit false

namespace TargetEval.CommandLine

inductive Stop where
  | usage
  | shown (text : String)
deriving DecidableEq, Repr

inductive Shape where
  | operand
  | divider
  | long (name : String) (value : Option String)
  | letters (cs : List Char)
deriving DecidableEq, Repr

def Shape.ofText (text : String) : Shape :=
  match text.toList with
  | ['-', '-'] => .divider
  | '-' :: '-' :: rest =>
      let value := match rest.dropWhile (· ≠ '=') with
        | _ :: value => some (String.ofList value)
        | [] => none
      .long (String.ofList (rest.takeWhile (· ≠ '='))) value
  | '-' :: c :: rest => .letters (c :: rest)
  | _ => .operand

def ValueKind.accepts (kind : ValueKind) (value : String) : Bool :=
  match kind with
  | .path => !value.isEmpty
  | .text => true
  | .seconds => (Seconds.read? value).isSome

structure Given where
  options : List (String × String)
  operands : List String
deriving DecidableEq, Repr

namespace Given

def empty : Given := ⟨[], []⟩

def value? (g : Given) (f : Flag) : Option String := g.options.lookup f.long

def has (g : Given) (f : Flag) : Bool := (g.value? f).isSome

def add (g : Given) (f : Flag) (value : String) : Except Stop Given :=
  let isAccepted := match f.effect with
    | .takes kind _ => kind.accepts value
    | _ => true
  if g.has f || !isAccepted then .error .usage else .ok { g with options := (f.long, value) :: g.options }

def addOperand (g : Given) (c : Command) (text : String) : Except Stop Given :=
  if c.operand.isSome && g.operands.isEmpty then .ok { g with operands := [text] } else .error .usage

end Given

section

variable (c : Command) (helpText : String)

def applySwitch (g : Given) (f : Flag) : Except Stop Given :=
  match f.effect with
  | .takes _ _ => .error .usage
  | .switch => g.add f ""
  | .help => .error (.shown helpText)
  | .version => .error (.shown versionText)

def applyLong (g : Given) (name : String) (value? : Option String) : Except Stop (Given × Option Flag) :=
  match c.flags.find? fun f => f.long = name with
  | none => .error .usage
  | some f =>
      match f.effect, value? with
      | .takes _ _, some value => do return (← g.add f value, none)
      | .takes _ _, none => .ok (g, some f)
      | _, some _ => .error .usage
      | _, none => do return (← applySwitch helpText g f, none)

def applyLetters (g : Given) : List Char → Except Stop (Given × Option Flag)
  | [] => .ok (g, none)
  | letter :: rest =>
      match c.flags.find? fun f => f.short = some letter with
      | none => .error .usage
      | some f =>
          match f.effect, rest with
          | .takes _ _, [] => .ok (g, some f)
          | .takes _ _, '=' :: value => do return (← g.add f (String.ofList value), none)
          | .takes _ _, value => do return (← g.add f (String.ofList value), none)
          | _, _ => do applyLetters (← applySwitch helpText g f) rest

def applyShape (g : Given) (text : String) : Except Stop (Given × Option Flag) :=
  match Shape.ofText text with
  | .operand => do return (← g.addOperand c text, none)
  | .divider => .ok (g, none)
  | .long name value? => applyLong c helpText g name value?
  | .letters cs => applyLetters c helpText g cs

def readArguments (isFront : Bool) : Given → List String → Except Stop (Given × List String)
  | g, [] => .ok (g, [])
  | g, text :: rest =>
      if isFront ∧ Shape.ofText text = .operand then .ok (g, text :: rest)
      else if Shape.ofText text = .divider then
        (rest.foldlM (fun (g : Given) operand => g.addOperand c operand) g).map fun last => (last, [])
      else
        match applyShape c helpText g text with
        | .error stop => .error stop
        | .ok (next, none) => readArguments isFront next rest
        | .ok (next, some f) =>
            match rest with
            | [] => .error .usage
            | value :: behind =>
                if Shape.ofText value ≠ .operand then .error .usage
                else
                  match next.add f value with
                  | .error stop => .error stop
                  | .ok last => readArguments isFront last behind

end

end TargetEval.CommandLine
