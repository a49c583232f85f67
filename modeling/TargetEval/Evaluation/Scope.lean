import TargetEval.Descriptor.Basic
import TargetEval.Evaluation.Answer
import TargetEval.Expr.Argument
import TargetEval.Series.Index
import TargetEval.Settings.Basic

set_option autoImplicit false

namespace TargetEval

structure Scope where
  settings : EvaluatorSettings
  window : Window
  index : SeriesIndex
  depth : Nat
  isRegistered : String → Bool
  read : String → Except Error Expr
  evaluateIn : SeriesIndex → Expr → Answer (List Series)

structure Function where
  run : Scope → Call Expr → Answer (List Series)
  descriptors : List Descriptor

namespace Scope

variable (scope : Scope)

def evaluate (e : Expr) : Answer (List Series) := scope.evaluateIn scope.index e

def seriesArgument (c : Call Expr) (index : Nat) (name : String) : Answer (List Series) := do
  let e ← c.seriesArgument index name
  scope.evaluate e

def checkSeries (c : Call Expr) (name : String) : Nat → List Expr → Except Error Unit
  | _, [] => .ok ()
  | index, e :: rest =>
      if e.isSeries then checkSeries c name (index + 1) rest
      else .error (c.failure index name .seriesList .wrongType)

def allSeries (c : Call Expr) (name : String) : Answer (List Series) := do
  let _ ← c.argument 0 name .seriesList
  checkSeries c name 0 c.arguments
  let lists ←
    if scope.settings.parallelArguments then Answer.allOf scope.evaluate c.arguments
    else Answer.inOrder scope.evaluate c.arguments
  -- Arguments that match nothing do not count, unless nothing is left.
  let series := lists.flatten
  if series.isEmpty then Answer.fail (.noData (c.renderedAs c.name)) else return series

end Scope

end TargetEval
