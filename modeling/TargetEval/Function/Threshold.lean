import TargetEval.Comparison
import TargetEval.Evaluation.Scope
import TargetEval.Reducer.Basic

set_option autoImplicit false

namespace TargetEval.Threshold

def consolidations : List Reducer := [.max, .min, .sum, .average]

def consolidation (name : String) : Except Error Reducer := do
  let reducer ← Reducer.ofName name
  if reducer ∈ consolidations then return reducer else throw (.unsupportedReducer name)

def passes (reducer : Reducer) (comparison : Comparison) (threshold : Float) (s : Series) : Bool :=
  -- Without present values the reduced value is NaN, which never passes.
  comparison.holds (reducer.reduce s.present) threshold

def run (scope : Scope) (c : Call Expr) : Answer (List Series) := do
  let series ← scope.seriesArgument c 0 "seriesList"
  let func ← c.stringArgument 1 "func"
  let operator ← c.stringArgument 2 "operator"
  let threshold ← c.floatArgument 3 "threshold"
  let reducer ← consolidation func
  let comparison ← Comparison.ofSymbol operator
  return series.filter (passes reducer comparison threshold)

def descriptor : Descriptor :=
  { name := "filterSeries"
    signature := "filterSeries(seriesList, func, operator, threshold)"
    group := "Filter Series"
    description :=
      "Takes one metric or a wildcard seriesList followed by a consolidation function, "
        ++ "an operator and a threshold. Draws only the metrics which match the filter "
        ++ "expression. Series without a comparable value are dropped."
    parameters :=
      [.needed "seriesList" .seriesList,
        (Parameter.needed "func" .reducer).among ["average", "max", "min", "sum"],
        (Parameter.needed "operator" .string).among (Comparison.all.map Comparison.symbol),
        .needed "threshold" .float] }

def function : Function := ⟨run, [descriptor]⟩

end TargetEval.Threshold
