import TargetEval.Evaluation.Scope
import TargetEval.Series.Smoothing

set_option autoImplicit false

namespace TargetEval.Smoothing

def names : List String := ["ewma", "exponentialWeightedMovingAverage"]

def weight (c : Call Expr) : Except Error Float := do
  let alpha ← c.floatArgument 1 "alpha"
  if 0.0 < alpha && alpha ≤ 1.0 then return alpha
  else throw (c.failure 1 "alpha" .float (.invalid (numberText alpha ++ " is outside (0, 1]")))

def outputName (input : String) (alpha : Float) : String :=
  "ewma(" ++ input ++ "," ++ numberText alpha ++ ")"

def run (scope : Scope) (c : Call Expr) : Answer (List Series) := do
  let series ← scope.seriesArgument c 0 "seriesList"
  let alpha ← weight c
  return series.map fun s => s.smooth (outputName s.name alpha) alpha

def descriptor (name : String) : Descriptor :=
  { name
    signature := name ++ "(seriesList, alpha)"
    group := "Calculate"
    description :=
      "Takes a series of values and an alpha and produces an exponential moving "
        ++ "average. Absent points are skipped without decaying the average."
    parameters := [.needed "seriesList" .seriesList, .needed "alpha" .float] }

def function : Function := ⟨run, names.map descriptor⟩

end TargetEval.Smoothing
