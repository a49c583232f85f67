import TargetEval.Evaluation.Scope
import TargetEval.Reducer.Basic
import TargetEval.Series.Combine

set_option autoImplicit false

namespace TargetEval

structure Combiner where
  name : String
  reducer : Reducer
  shortFor : Option String
deriving DecidableEq, Repr

namespace Combiner

def all : List Combiner :=
  [⟨"averageSeries", .average, none⟩, ⟨"avg", .average, some "averageSeries"⟩,
    ⟨"minSeries", .min, none⟩, ⟨"min", .min, some "minSeries"⟩,
    ⟨"maxSeries", .max, none⟩, ⟨"max", .max, some "maxSeries"⟩,
    ⟨"sumSeries", .sum, none⟩, ⟨"sum", .sum, some "sumSeries"⟩,
    ⟨"multiplySeries", .multiply, none⟩, ⟨"diffSeries", .diff, none⟩, ⟨"rangeSeries", .range, none⟩,
    ⟨"stddevSeries", .stddev, none⟩, ⟨"medianSeries", .median, none⟩, ⟨"countSeries", .count, none⟩]

def names : List String := all.map Combiner.name

def ofName (name : String) : Except Error Combiner :=
  match all.find? fun combiner => combiner.name = name with
  | some combiner => .ok combiner
  | none => .error (.internal ("'" ++ name ++ "' is not a series combinator"))

def outputName (name : String) : String := if name = "avg" then "averageSeries" else name

def run (scope : Scope) (c : Call Expr) : Answer (List Series) := do
  let combiner ← ofName c.name
  let series ← scope.allSeries c "seriesLists"
  let result ← Series.combine (c.renderedAs (outputName c.name)) series combiner.reducer.reduce
  return [result]

def descriptor (combiner : Combiner) : Descriptor :=
  { name := combiner.name
    signature := combiner.name ++ "(*seriesLists)"
    group := "Combine"
    description :=
      match combiner.shortFor with
      | some long => "Short alias of " ++ long ++ "."
      | none =>
          "Takes one or more series lists and combines them point by point with '"
            ++ combiner.reducer.name
            ++ "'. Absent points are ignored; an index where every input is absent stays absent."
    parameters := [(Parameter.needed "seriesLists" .seriesLists).repeating] }

def function : Function := ⟨run, all.map descriptor⟩

end Combiner

namespace Aggregate

def run (scope : Scope) (c : Call Expr) : Answer (List Series) := do
  let series ← scope.seriesArgument c 0 "seriesList"
  let reducer ← Reducer.ofName (← c.stringArgument 1 "func")
  if series.isEmpty then Answer.fail (.noData (c.renderedAs c.name))
  else
    let first := (c.arguments.head?.map Expr.text).getD ""
    let result ← Series.combine (reducer.name ++ "Series(" ++ first ++ ")") series reducer.reduce
    return [result]

def descriptor : Descriptor :=
  { name := "aggregate"
    signature := "aggregate(seriesList, func)"
    group := "Combine"
    description := "Aggregate series using the specified function."
    parameters :=
      [.needed "seriesList" .seriesList,
        (Parameter.needed "func" .reducer).among (Reducer.all.map Reducer.name)] }

def function : Function := ⟨run, [descriptor]⟩

end Aggregate

end TargetEval
