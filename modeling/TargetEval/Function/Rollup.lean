import TargetEval.Evaluation.Scope
import TargetEval.Series.Summary

set_option autoImplicit false

namespace TargetEval.Rollup

structure Options where
  width : Seconds
  interval : String
  func : String
  funcGiven : Bool
  fromStart : Bool
  fromStartGiven : Bool
  reducer : Reducer

def intervalFailure (c : Call Expr) (reason : String) : Error :=
  c.failure 1 "intervalString" .interval (.invalid reason)

def options (c : Call Expr) : Except Error Options := do
  let width ← c.intervalArgument 1 "intervalString" 1
  if width ≤ 0 then
    throw (intervalFailure c ("bucket size " ++ width.text ++ "s is not positive"))
  let func ← c.stringOr "func" 2 "sum"
  let fromStart ← c.booleanOr "alignToFrom" 3 false
  let reducer ← Reducer.ofName func
  return {
    width, func, fromStart, reducer
    interval := (c.stringAt? 1).getD ""
    funcGiven := c.isGiven "func" 2
    fromStartGiven := c.isGiven "alignToFrom" 3 }

def Options.outputName (o : Options) (input : String) : String :=
  -- The reducer is written whenever the alignment is, so that the alignment never takes its place.
  "summarize(" ++ input ++ ",'" ++ o.interval ++ "'"
    ++ (if o.funcGiven || o.fromStartGiven then ",'" ++ o.func ++ "'" else "")
    ++ (if o.fromStartGiven then (if o.fromStart then ",true" else ",false") else "") ++ ")"

def Options.apply (o : Options) (c : Call Expr) (s : Series) : Except Error Series :=
  match s.summarize (o.outputName s.name) o.width o.reducer o.fromStart with
  | .ok result => .ok result
  | .error _ =>
      .error (intervalFailure c
        (o.width.text ++ "s buckets overflow the time range of '" ++ s.name ++ "'"))

def run (scope : Scope) (c : Call Expr) : Answer (List Series) := do
  let series ← scope.seriesArgument c 0 "seriesList"
  let o ← options c
  Answer.ofExcept (series.mapM (o.apply c))

def descriptor : Descriptor :=
  { name := "summarize"
    signature := "summarize(seriesList, intervalString, func='sum', alignToFrom=False)"
    group := "Transform"
    description :=
      "Summarize the data into interval buckets of a certain size. By default buckets "
        ++ "are aligned to multiples of the interval; alignToFrom=true starts them at the "
        ++ "series' own start. Each bucket is reduced with func (sum by default)."
    parameters :=
      [.needed "seriesList" .seriesList, .needed "intervalString" .interval,
        (Parameter.optional "func" .reducer "sum").among (Reducer.all.map Reducer.name),
        .optional "alignToFrom" .boolean "false"] }

def function : Function := ⟨run, [descriptor]⟩

end TargetEval.Rollup
