import TargetEval.Error
import TargetEval.Expr.Basic
import TargetEval.Time.Interval

set_option autoImplicit false

namespace TargetEval.Call

variable (c : Call Expr)

def failure (index : Nat) (name : String) (expected : ArgumentType) (problem : ArgumentProblem) : Error :=
  .argument { function := c.name, index, name, expected, problem }

def argument (index : Nat) (name : String) (expected : ArgumentType) : Except Error Expr :=
  match c.arguments[index]? with
  | some e => .ok e
  | none => .error (c.failure index name expected .missing)

def named? (name : String) (index : Nat) : Option Expr :=
  (ByName.find? name c.named).or c.arguments[index]?

def isGiven (name : String) (index : Nat) : Bool := ByName.contains name c.named || index < c.arguments.length

def seriesArgument (index : Nat) (name : String) : Except Error Expr := do
  let e ← c.argument index name .seriesList
  if e.isSeries then return e else throw (c.failure index name .seriesList .wrongType)

def floatArgument (index : Nat) (name : String) : Except Error Float := do
  match ← c.argument index name .float with
  | .number value => return value
  | _ => throw (c.failure index name .float .wrongType)

def integerOf (index : Nat) (name : String) : Expr → Except Error Int64
  | .number value =>
      match Binary64.integer? value with
      -- Beyond 64 bits the nearest bound counts.
      | some n => .ok (Bounded.clamp n)
      | none =>
          .error (c.failure index name .integer (.invalid (numberText value ++ " is not an integer")))
  | _ => .error (c.failure index name .integer .wrongType)

def integerArgument (index : Nat) (name : String) : Except Error Int64 := do
  c.integerOf index name (← c.argument index name .integer)

def integersOf (name : String) : Nat → List Expr → Except Error (List Int64)
  | _, [] => .ok []
  | index, e :: rest => do
      let n ← c.integerOf index name e
      return n :: (← integersOf name (index + 1) rest)

def integersFrom (index : Nat) (name : String) : Except Error (List Int64) := do
  let _ ← c.argument index name .integer
  c.integersOf name index (c.arguments.drop index)

def stringArgument (index : Nat) (name : String) : Except Error String := do
  match ← c.argument index name .string with
  | .string value => return value
  | _ => throw (c.failure index name .string .wrongType)

def intervalArgument (index : Nat) (name : String) (defaultSign : Int) : Except Error Seconds := do
  match ← c.argument index name .interval with
  | .string value =>
      match Interval.read value defaultSign with
      | .ok seconds => return seconds
      | .error fault => throw (c.failure index name .interval (.invalid (fault.message value)))
  | _ => throw (c.failure index name .interval .wrongType)

def stringAt? (index : Nat) : Option String :=
  match c.arguments[index]? with
  | some (.string value) => some value
  | _ => none

def stringOr (name : String) (index : Nat) (default : String) : Except Error String :=
  match c.named? name index with
  | none => .ok default
  | some (.string value) => .ok value
  | some _ => .error (c.failure index name .string .wrongType)

def booleanOr (name : String) (index : Nat) (default : Bool) : Except Error Bool :=
  match c.named? name index with
  | none => .ok default
  | some (.boolean value) => .ok value
  | some _ => .error (c.failure index name .boolean .wrongType)

end TargetEval.Call
