import TargetEval.Evaluation.Scope
import TargetEval.Registry
import TargetEval.Target.Reading

set_option autoImplicit false

namespace TargetEval

structure Evaluator where
  registry : Registry Function
  read : String → Except Error Expr
  settings : EvaluatorSettings

namespace Evaluator

def ofRegistry (registry : Registry Function) (settings : EvaluatorSettings) : Evaluator :=
  ⟨registry, Target.read, settings⟩

def literalError (e : Expr) : Error :=
  .argument { function := "target", index := 0, name := e.text, expected := .seriesList, problem := .wrongType }

def node (ev : Evaluator) (window : Window) : (levels : Nat) → SeriesIndex → Expr → Answer (List Series)
  | 0, _, _ => .fail (.recursionLimit (ev.settings.maxDepth + 1) ev.settings.maxDepth)
  | levels + 1, index, e =>
      match e with
      | .metric name _ => .done (index.get ⟨name, window⟩)
      | .call c =>
          match ev.registry.resolve c.name c.position with
          | .error e => .fail e
          | .ok function =>
              let scope : Scope :=
                { settings := ev.settings, window, index
                  depth := ev.settings.maxDepth - levels
                  isRegistered := ev.registry.contains
                  read := ev.read
                  evaluateIn := fun inner e => node ev window levels inner e }
              let answer := function.run scope c
              answer.followedBy ev.settings.recordsMetrics (.evaluated c.name answer.succeeded)
      | literal => .fail (literalError literal)

def evaluate (ev : Evaluator) (e : Expr) (window : Window) (index : SeriesIndex) : Answer (List Series) :=
  ev.node window (ev.settings.maxDepth + 1) index e

def evaluateTarget (ev : Evaluator) (target : String) (window : Window) (index : SeriesIndex) :
    Answer (List Series) := do
  let e ← ev.read target
  ev.evaluate e window index

end Evaluator

end TargetEval
