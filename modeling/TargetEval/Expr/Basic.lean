import TargetEval.ByName
import TargetEval.Number.Layout

set_option autoImplicit false

namespace TargetEval

structure Call (ε : Type) where
  name : String
  arguments : List ε
  named : List (String × ε)
  argumentText : String
  position : Nat

inductive Expr where
  | metric (name : String) (position : Nat)
  | call (c : Call Expr)
  | number (value : Float)
  | string (value : String)
  | boolean (value : Bool)

def Call.renderedAs {ε : Type} (c : Call ε) (name : String) : String := name ++ "(" ++ c.argumentText ++ ")"

namespace Expr

def position : Expr → Nat
  | metric _ position => position
  | call c => c.position
  | _ => 0

def isSeries : Expr → Bool
  | metric _ _ => true
  | call _ => true
  | _ => false

def text : Expr → String
  | metric name _ => name
  | call c => c.renderedAs c.name
  | number value => numberText value
  | string value => "'" ++ value ++ "'"
  | boolean value => if value then "true" else "false"

end Expr

end TargetEval
