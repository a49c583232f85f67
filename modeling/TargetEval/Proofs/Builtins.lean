import TargetEval.Evaluation.Evaluator
import TargetEval.Proofs.Answers
import TargetEval.Proofs.Registry

set_option autoImplicit false

namespace TargetEval

abbrev Builtin.evaluatorWith (settings : EvaluatorSettings) : Evaluator := .ofRegistry registry settings

def Evaluator.scope (ev : Evaluator) (window : Window) (levels : Nat) (index : SeriesIndex) : Scope where
  settings := ev.settings
  window := window
  index := index
  depth := ev.settings.maxDepth - levels
  isRegistered := ev.registry.contains
  read := ev.read
  evaluateIn := fun inner e => ev.node window levels inner e

theorem node_call (ev : Evaluator) (window : Window) (levels : Nat) (index : SeriesIndex) (c : Call Expr)
    (f : Function) (resolved : ev.registry.resolve c.name c.position = .ok f) :
    ev.node window (levels + 1) index (.call c) =
      (f.run (ev.scope window levels index) c).followedBy ev.settings.recordsMetrics
        (.evaluated c.name (f.run (ev.scope window levels index) c).succeeded) := by
  simp only [Evaluator.node, resolved]
  rfl

theorem node_unresolved (ev : Evaluator) (window : Window) (levels : Nat) (index : SeriesIndex) (c : Call Expr)
    (e : Error) (unresolved : ev.registry.resolve c.name c.position = .error e) :
    ev.node window (levels + 1) index (.call c) = .fail e := by
  simp only [Evaluator.node, unresolved]

def Function.Computes (f : Function) (compute : Call Expr → List Series → Except Error (List Series)) : Prop :=
  ∀ scope c, f.run scope c =
    (scope.seriesArgument c 0 "seriesList").andThen fun series => .ofExcept (compute c series)

def Aggregate.compute (c : Call Expr) (series : List Series) : Except Error (List Series) := do
  let func ← c.stringArgument 1 "func"
  let reducer ← Reducer.ofName func
  if series.isEmpty then throw (.noData (c.renderedAs c.name))
  else
    let first := (c.arguments.head?.map Expr.text).getD ""
    let result ← Series.combine (reducer.name ++ "Series(" ++ first ++ ")") series reducer.reduce
    return [result]

def Rollup.compute (c : Call Expr) (series : List Series) : Except Error (List Series) := do
  let o ← options c
  series.mapM (o.apply c)

def Threshold.compute (c : Call Expr) (series : List Series) : Except Error (List Series) := do
  let func ← c.stringArgument 1 "func"
  let operator ← c.stringArgument 2 "operator"
  let threshold ← c.floatArgument 3 "threshold"
  let reducer ← consolidation func
  let comparison ← Comparison.ofSymbol operator
  return series.filter (passes reducer comparison threshold)

def Smoothing.compute (c : Call Expr) (series : List Series) : Except Error (List Series) := do
  let alpha ← weight c
  return series.map fun s => s.smooth (outputName s.name alpha) alpha

theorem aggregate_computes : Aggregate.function.Computes Aggregate.compute := by
  intro scope c
  simp only [Aggregate.compute, Answer.of_except_bind, apply_ite Answer.ofExcept]
  rfl

theorem rollup_computes : Rollup.function.Computes Rollup.compute := by
  intro scope c
  simp only [Rollup.compute, Answer.of_except_bind]
  rfl

theorem rollup_apply (o : Rollup.Options) (c : Call Expr) (s : Series) :
    o.apply c s = (s.summarize (o.outputName s.name) o.width o.reducer o.fromStart).mapError fun _ =>
      Rollup.intervalFailure c (o.width.text ++ "s buckets overflow the time range of '" ++ s.name ++ "'") := by
  unfold Rollup.Options.apply
  cases s.summarize (o.outputName s.name) o.width o.reducer o.fromStart with
  | ok result => rfl
  | error fault => rfl

theorem threshold_computes : Threshold.function.Computes Threshold.compute := by
  intro scope c
  simp only [Threshold.compute, Answer.of_except_bind]
  rfl

theorem smoothing_computes : Smoothing.function.Computes Smoothing.compute := by
  intro scope c
  simp only [Smoothing.compute, Answer.of_except_bind]
  rfl

def Combiner.compute (combiner : Combiner) (c : Call Expr) (series : List Series) : Except Error (List Series) := do
  let result ← Series.combine (c.renderedAs (outputName c.name)) series combiner.reducer.reduce
  return [result]

theorem combiner_run (scope : Scope) (c : Call Expr) :
    Combiner.function.run scope c =
      (Answer.ofExcept (Combiner.ofName c.name)).andThen fun combiner =>
        (scope.allSeries c "seriesLists").andThen fun series => .ofExcept (combiner.compute c series) := by
  simp only [Combiner.compute, Answer.of_except_bind]
  rfl

def Scope.argumentLists (scope : Scope) (c : Call Expr) : Answer (List (List Series)) :=
  if scope.settings.parallelArguments then Answer.allOf scope.evaluate c.arguments
  else Answer.inOrder scope.evaluate c.arguments

theorem all_series (scope : Scope) (c : Call Expr) (name : String) :
    scope.allSeries c name =
      (Answer.ofExcept (c.argument 0 name .seriesList)).andThen fun _ =>
        (Answer.ofExcept (Scope.checkSeries c name 0 c.arguments)).andThen fun _ =>
          (scope.argumentLists c).andThen fun lists =>
            if lists.flatten.isEmpty then Answer.fail (.noData (c.renderedAs c.name))
            else Answer.done lists.flatten := by
  unfold Scope.allSeries Scope.argumentLists
  split
  · rfl
  · rfl

theorem series_argument (scope : Scope) (c : Call Expr) (index : Nat) (name : String) :
    scope.seriesArgument c index name =
      (Answer.ofExcept (c.seriesArgument index name)).andThen scope.evaluate := rfl

theorem grouping_run (scope : Scope) (c : Call Expr) :
    Grouping.function.run scope c =
      (scope.seriesArgument c 0 "seriesList").andThen fun series =>
        (Answer.ofExcept (Grouping.options c)).andThen fun o =>
          (Answer.ofExcept (Grouping.template scope c o.callback)).andThen fun e =>
            (Answer.ofExcept (Grouping.groups c o series)).andThen fun found =>
              (Answer.inOrder (fun group => Grouping.keepOrDrop scope c (Grouping.evaluateGroup scope e group))
                found).andThen fun results => Answer.done results.flatten := rfl

theorem Grouping.keep_or_drop_outcome (scope : Scope) (c : Call Expr) (a : Answer (List Series)) :
    (Grouping.keepOrDrop scope c a).outcome =
      if scope.settings.lenientGrouping then .ok (a.outcome.toOption.getD []) else a.outcome := by
  unfold Grouping.keepOrDrop
  obtain ⟨outcome, events⟩ := a
  cases scope.settings.lenientGrouping with
  | false => rfl
  | true =>
      cases outcome with
      | ok result => rfl
      | error e => exact Answer.followed_by_outcome _ _ _

theorem Grouping.keep_or_drop_strict (scope : Scope) (refuses : scope.settings.lenientGrouping = false) (c : Call Expr)
    (a : Answer (List Series)) : Grouping.keepOrDrop scope c a = a := by
  simp [Grouping.keepOrDrop, refuses]

theorem argument_found (c : Call Expr) (index : Nat) (name : String) (expected : ArgumentType) (e : Expr)
    (given : c.argument index name expected = .ok e) : c.arguments[index]? = some e := by
  unfold Call.argument at given
  split at given
  next found => exact found.trans (congrArg some (Except.ok.inj given))
  next => cases given

theorem series_argument_found (c : Call Expr) (index : Nat) (name : String) (e : Expr)
    (given : c.seriesArgument index name = .ok e) : c.arguments[index]? = some e ∧ e.isSeries = true := by
  unfold Call.seriesArgument at given
  cases found : c.argument index name .seriesList with
  | error failure => rw [found] at given; cases given
  | ok other =>
      rw [found, Answer.ok_bind] at given
      split at given
      next series =>
        cases given
        exact ⟨argument_found c index name _ e found, series⟩
      next => cases given

theorem series_argument_mem (c : Call Expr) (index : Nat) (name : String) (e : Expr)
    (given : c.seriesArgument index name = .ok e) : e ∈ c.arguments :=
  List.mem_of_getElem? (series_argument_found c index name e given).1

end TargetEval
