import TargetEval.Error

set_option autoImplicit false

namespace TargetEval

inductive Comparison where
  | less
  | greater
  | atMost
  | atLeast
  | equal
  | different
deriving DecidableEq, Repr

namespace Comparison

def all : List Comparison := [less, greater, atMost, atLeast, equal, different]

def symbol : Comparison → String
  | less => "<"
  | greater => ">"
  | atMost => "<="
  | atLeast => ">="
  | equal => "="
  | different => "!="

def ofSymbol (text : String) : Except Error Comparison :=
  match all.find? (fun c => c.symbol = text) with
  | some c => .ok c
  | none => .error (.unsupportedOperator text)

def holds (c : Comparison) (value threshold : Float) : Bool :=
  if value.isNaN || threshold.isNaN then false
  else match c with
    | less => value < threshold
    | greater => threshold < value
    | atMost => value ≤ threshold
    | atLeast => threshold ≤ value
    | equal => value == threshold
    | different => value != threshold

end Comparison

end TargetEval
