set_option autoImplicit false

namespace TargetEval

inductive ParameterType where
  | seriesList
  | seriesLists
  | integer
  | float
  | string
  | boolean
  | interval
  | reducer
  | node
deriving DecidableEq, Repr

structure Parameter where
  name : String
  type : ParameterType
  required : Bool
  repeats : Bool
  default : Option String
  options : List String
deriving DecidableEq, Repr

namespace Parameter

def needed (name : String) (type : ParameterType) : Parameter := ⟨name, type, true, false, none, []⟩

def optional (name : String) (type : ParameterType) (default : String) : Parameter :=
  ⟨name, type, false, false, some default, []⟩

def repeating (p : Parameter) : Parameter := { p with repeats := true }

def among (p : Parameter) (options : List String) : Parameter := { p with options }

end Parameter

structure Descriptor where
  name : String
  signature : String
  group : String
  description : String
  parameters : List Parameter
deriving DecidableEq, Repr

end TargetEval
