import TargetEval.Expr.Basic
import TargetEval.Text.Basic

set_option autoImplicit false

namespace TargetEval.Expr

mutual

def rename (old new : String) : Expr → Expr
  | .metric name position => .metric (if name = old then new else name) position
  | .call ⟨name, arguments, named, argumentText, position⟩ =>
      .call
        { name, position
          arguments := renameEach old new arguments
          named := renameNamed old new named
          argumentText := replaceText old new argumentText }
  | .number value => .number value
  | .string value => .string value
  | .boolean value => .boolean value

def renameEach (old new : String) : List Expr → List Expr
  | [] => []
  | e :: rest => rename old new e :: renameEach old new rest

def renameNamed (old new : String) : List (String × Expr) → List (String × Expr)
  | [] => []
  | (key, e) :: rest => (key, rename old new e) :: renameNamed old new rest

end

end TargetEval.Expr
