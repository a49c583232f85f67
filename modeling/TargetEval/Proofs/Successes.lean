import TargetEval.Proofs.Congruence

set_option autoImplicit false

namespace TargetEval

theorem series_argument_success (scope : Scope) (c : Call Expr) (name : String) (series : List Series)
    (ok : (scope.seriesArgument c 0 name).outcome = .ok series) :
    ∃ e, c.seriesArgument 0 name = .ok e ∧ (scope.evaluate e).outcome = .ok series ∧
      (scope.seriesArgument c 0 name).events = (scope.evaluate e).events := by
  rw [series_argument] at ok ⊢
  obtain ⟨e, given, evaluated⟩ := Answer.ok_of_and_then _ _ _ ok
  rw [Answer.and_then_ok _ _ e given]
  exact ⟨e, given, evaluated, List.nil_append _⟩

theorem evaluated_first (c : Call Expr) (alone : c.name ∉ Combiner.names) (name : String) (e : Expr)
    (given : c.seriesArgument 0 name = .ok e) : c.evaluated = [e] := by
  obtain ⟨found, _⟩ := series_argument_found c 0 name e given
  rw [Call.evaluated, if_neg alone]
  cases arguments : c.arguments with
  | nil => simp [arguments] at found
  | cons first rest =>
      rw [arguments] at found
      rw [← Option.some.inj found]
      rfl

theorem row_alone (row : List String × Function) (listed : row ∈ Builtin.table) (different : row.1 ≠ Combiner.names)
    (name : String) (named : name ∈ row.1) : name ∉ Combiner.names := fun combiner =>
  different (congrArg Prod.fst
    (Builtin.row_unique row (Combiner.names, Combiner.function) listed (by simp [Builtin.table]) name named combiner))

theorem computing_success {f : Function} {compute : Call Expr → List Series → Except Error (List Series)}
    (computes : f.Computes compute) (scope : Scope) (c : Call Expr) (alone : c.name ∉ Combiner.names)
    (result : List Series) (ok : (f.run scope c).outcome = .ok result) :
    ∃ e series, c.evaluated = [e] ∧ (scope.seriesArgument c 0 "seriesList").outcome = .ok series ∧
      (scope.evaluate e).outcome = .ok series ∧ compute c series = .ok result ∧
      (f.run scope c).events = (scope.evaluate e).events := by
  rw [computes] at ok ⊢
  obtain ⟨series, argument, computed⟩ := Answer.ok_of_and_then _ _ _ ok
  obtain ⟨e, given, evaluated, events⟩ := series_argument_success scope c _ series argument
  rw [Answer.and_then_ok _ _ series argument, events]
  exact ⟨e, series, evaluated_first c alone _ e given, argument, evaluated, computed, List.append_nil _⟩

theorem argument_lists_success (scope : Scope) (c : Call Expr) (lists : List (List Series))
    (ok : (scope.argumentLists c).outcome = .ok lists) :
    (c.arguments.mapM fun e => (scope.evaluate e).outcome) = .ok lists ∧
      (scope.argumentLists c).events = c.arguments.flatMap fun e => (scope.evaluate e).events := by
  unfold Scope.argumentLists at ok ⊢
  split at ok
  next parallel =>
    rw [if_pos parallel, Answer.all_of_events]
    exact ⟨(Answer.all_of_outcome _ _).symm.trans ok, rfl⟩
  next sequential =>
    rw [if_neg sequential, Answer.in_order_events _ _ lists ok]
    exact ⟨(Answer.in_order_outcome _ _).symm.trans ok, rfl⟩

theorem all_series_success (scope : Scope) (c : Call Expr) (name : String) (series : List Series)
    (ok : (scope.allSeries c name).outcome = .ok series) :
    ∃ lists, (c.arguments.mapM fun e => (scope.evaluate e).outcome) = .ok lists ∧ series = lists.flatten ∧
      (scope.allSeries c name).events = c.arguments.flatMap fun e => (scope.evaluate e).events := by
  rw [all_series] at ok ⊢
  obtain ⟨e, first, checking⟩ := Answer.ok_of_and_then _ _ _ ok
  obtain ⟨u, checked, evaluating⟩ := Answer.ok_of_and_then _ _ _ checking
  obtain ⟨lists, evaluated, flattened⟩ := Answer.ok_of_and_then _ _ _ evaluating
  obtain ⟨outcomes, events⟩ := argument_lists_success scope c lists evaluated
  rw [Answer.and_then_ok _ _ e first, Answer.and_then_ok _ _ u checked, Answer.and_then_ok _ _ lists evaluated, events]
  split at flattened
  next => cases flattened
  next occupied =>
    cases flattened
    refine ⟨lists, outcomes, rfl, ?_⟩
    rw [if_neg occupied]
    exact List.append_nil _

theorem combining_success (scope : Scope) (c : Call Expr) (result : List Series)
    (ok : (Combiner.function.run scope c).outcome = .ok result) :
    ∃ (combiner : Combiner) (lists : List (List Series)),
      (c.arguments.mapM fun e => (scope.evaluate e).outcome) = .ok lists ∧
      combiner.compute c lists.flatten = .ok result ∧
      (Combiner.function.run scope c).events = c.arguments.flatMap fun e => (scope.evaluate e).events := by
  rw [combiner_run] at ok ⊢
  obtain ⟨combiner, named, combining⟩ := Answer.ok_of_and_then _ _ _ ok
  obtain ⟨series, evaluated, computed⟩ := Answer.ok_of_and_then _ _ _ combining
  obtain ⟨lists, outcomes, rfl, events⟩ := all_series_success scope c _ series evaluated
  rw [Answer.and_then_ok _ _ combiner named, Answer.and_then_ok _ _ _ evaluated, events]
  exact ⟨combiner, lists, outcomes, computed, List.append_nil _⟩

def Grouping.groupAnswers (scope : Scope) (c : Call Expr) : Except Error (List (Answer (List Series))) := do
  let series ← (scope.seriesArgument c 0 "seriesList").outcome
  let o ← options c
  let e ← template scope c o.callback
  let found ← groups c o series
  return found.map (evaluateGroup scope e)

theorem grouping_alone : ∀ name ∈ Grouping.names, name ∉ Combiner.names := by
  decide +kernel

theorem grouping_success (scope : Scope) (c : Call Expr) (listed : c.name ∈ Grouping.names) (result : List Series)
    (ok : (Grouping.function.run scope c).outcome = .ok result) :
    ∃ e series o template found lists, c.evaluated = [e] ∧ (scope.evaluate e).outcome = .ok series ∧
      Grouping.options c = .ok o ∧ Grouping.template scope c o.callback = .ok template ∧
      Grouping.groups c o series = .ok found ∧
      Grouping.groupAnswers scope c = .ok (found.map (Grouping.evaluateGroup scope template)) ∧
      (found.mapM fun g => (Grouping.keepOrDrop scope c (Grouping.evaluateGroup scope template g)).outcome) =
        .ok lists ∧
      result = lists.flatten ∧
      (Grouping.function.run scope c).events = (scope.evaluate e).events ++
        found.flatMap fun g => (Grouping.keepOrDrop scope c (Grouping.evaluateGroup scope template g)).events := by
  rw [grouping_run] at ok ⊢
  obtain ⟨series, argument, choosing⟩ := Answer.ok_of_and_then _ _ _ ok
  obtain ⟨o, chosen, reading⟩ := Answer.ok_of_and_then _ _ _ choosing
  obtain ⟨template, read, grouping⟩ := Answer.ok_of_and_then _ _ _ reading
  obtain ⟨found, grouped, keeping⟩ := Answer.ok_of_and_then _ _ _ grouping
  obtain ⟨lists, kept, flattened⟩ := Answer.ok_of_and_then _ _ _ keeping
  obtain ⟨e, given, evaluated, events⟩ := series_argument_success scope c _ series argument
  cases flattened
  refine ⟨e, series, o, template, found, lists, evaluated_first c (grouping_alone c.name listed) _ e given, evaluated,
    chosen, read, grouped, ?_, (Answer.in_order_outcome _ _).symm.trans kept, rfl, ?_⟩
  · rw [Answer.of_except_outcome] at chosen read grouped
    simp only [Grouping.groupAnswers, argument, chosen, read, grouped, Answer.ok_bind]
    rfl
  · rw [Answer.and_then_ok _ _ series argument, Answer.and_then_ok _ _ o chosen, Answer.and_then_ok _ _ template read,
      Answer.and_then_ok _ _ found grouped, Answer.and_then_ok _ _ lists kept, events,
      Answer.in_order_events _ _ lists kept]
    simp [Answer.done, Answer.ofExcept]

theorem call_success (ev : Evaluator) (builtin : ev.registry = Builtin.registry) (window : Window) (levels : Nat)
    (index : SeriesIndex) (c : Call Expr) (result : List Series)
    (ok : (ev.node window (levels + 1) index (.call c)).outcome = .ok result) :
    ∃ row ∈ Builtin.table, c.name ∈ row.1 ∧ (row.2.run (ev.scope window levels index) c).outcome = .ok result ∧
      ev.node window (levels + 1) index (.call c) =
        (row.2.run (ev.scope window levels index) c).followedBy ev.settings.recordsMetrics (.evaluated c.name true) := by
  cases resolved : ev.registry.resolve c.name c.position with
  | error failure =>
      rw [node_unresolved ev _ _ _ c failure resolved] at ok
      cases ok
  | ok f =>
      have called := node_call ev window levels index c f resolved
      rw [called, Answer.followed_by_outcome] at ok
      have succeeded : (f.run (ev.scope window levels index) c).succeeded = true := by
        rw [Answer.succeeded, ok]
        rfl
      rw [builtin] at resolved
      obtain ⟨row, listed, named, rfl⟩ := Builtin.resolve_row c.name c.position f resolved
      exact ⟨row, listed, named, ok, succeeded ▸ called⟩

end TargetEval
