import TargetEval.Text.Quoted

set_option autoImplicit false

namespace TargetEval

inductive ArgumentType where
  | seriesList
  | float
  | integer
  | string
  | boolean
  | interval
deriving DecidableEq, Repr

def ArgumentType.text : ArgumentType → String
  | .seriesList => "seriesList"
  | .float => "float"
  | .integer => "integer"
  | .string => "string"
  | .boolean => "boolean"
  | .interval => "interval"

inductive ArgumentProblem where
  | missing
  | wrongType
  | invalid (reason : String)
deriving DecidableEq, Repr

def ArgumentProblem.text : ArgumentProblem → String
  | .missing => "missing"
  | .wrongType => "wrong type"
  | .invalid reason => reason

structure ArgumentError where
  function : String
  index : Nat
  name : String
  expected : ArgumentType
  problem : ArgumentProblem
deriving DecidableEq, Repr

inductive Error where
  | argument (detail : ArgumentError)
  | unknownFunction (name : String) (position : Nat)
  | unsupportedReducer (name : String)
  | unsupportedOperator (symbol : String)
  | shapeMismatch (detail : String)
  | noData (subject : String)
  | parse (position : Nat) (detail : String)
  | recursionLimit (depth limit : Nat)
  | configuration (detail : String)
  | internal (detail : String)
deriving DecidableEq, Repr

def ArgumentError.message (e : ArgumentError) : String :=
  e.function ++ ": argument " ++ toString e.index ++ " (" ++ e.name ++ ") expected "
    ++ e.expected.text ++ ": " ++ e.problem.text

namespace Error

def message : Error → String
  | argument detail => "Argument error: " ++ detail.message
  | unknownFunction name position =>
      "Unknown function '" ++ name ++ "' at position " ++ toString position
  | unsupportedReducer name => "Unsupported reducer: " ++ quoted name
  | unsupportedOperator symbol => "Unsupported operator: " ++ quoted symbol
  | shapeMismatch detail => "Shape mismatch: " ++ detail
  | noData subject => "No data for " ++ subject
  | parse position detail => "Parse error at position " ++ toString position ++ ": " ++ detail
  | recursionLimit depth limit =>
      "Recursion depth " ++ toString depth ++ " exceeds limit " ++ toString limit
  | configuration detail => "Configuration error: " ++ detail
  | internal detail => "Internal error: " ++ detail

def isNoData : Error → Bool
  | noData _ => true
  | _ => false

end Error

end TargetEval
