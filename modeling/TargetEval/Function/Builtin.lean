import TargetEval.Function.Combiner
import TargetEval.Function.Grouping
import TargetEval.Function.Rollup
import TargetEval.Function.Smoothing
import TargetEval.Function.Threshold
import TargetEval.Registry

set_option autoImplicit false

namespace TargetEval.Builtin

def table : List (List String × Function) :=
  [(Combiner.names, Combiner.function), (["aggregate"], Aggregate.function),
    (["summarize"], Rollup.function), (["filterSeries"], Threshold.function),
    (["groupByNode", "groupByNodes"], Grouping.function), (Smoothing.names, Smoothing.function)]

-- No name stands twice in the table, so all of it is registered.
def registry : Registry Function :=
  table.foldl (fun r entry => (r.registerAll entry.2 entry.1).1) Registry.empty

end TargetEval.Builtin
