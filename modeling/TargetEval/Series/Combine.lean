import TargetEval.Series.Basic

set_option autoImplicit false

namespace TargetEval.Series

def isAligned (a b : Series) : Bool := a.step = b.step && a.size = b.size

def misalignment (name : String) (first other : Series) : Error :=
  let shape (s : Series) : String :=
    "'" ++ s.name ++ "' (step " ++ s.step.text ++ ", " ++ toString s.size ++ " points)"
  .shapeMismatch (name ++ ": " ++ shape other ++ " does not align with " ++ shape first)

def combinedPoint (fold : List Float → Float) (series : List Series) (i : Nat) : Option Float :=
  let present := series.filterMap fun s => s.get? i
  if present.isEmpty then none
  else
    let value := fold present
    if value.isNaN then none else some value

def combine (name : String) (series : List Series) (fold : List Float → Float) : Except Error Series :=
  match series with
  | [] => .error (.noData name)
  | first :: others =>
      match others.find? (fun other => !first.isAligned other) with
      | some other => .error (misalignment name first other)
      | none => .ok (spanning name first.start first.stop first.step
          ((List.range first.size).map (combinedPoint fold series)))

end TargetEval.Series
