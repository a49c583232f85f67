import TargetEval.Proofs.OwnErrors

/-!
Two evaluations side by side, under different settings. A relation between answers that respects how
functions are put together passes from the arguments of a call, and from its groups, to the call.
-/

set_option autoImplicit false

namespace TargetEval

abbrev AnswerRelation := ∀ α : Type, Answer α → Answer α → Prop

-- What the built-in functions do with answers keeps them related.
structure Congruence (R : AnswerRelation) : Prop where
  -- What a function computes itself, on both sides.
  own : ∀ (α : Type) (a : Except Error α), Shallow a → R α (.ofExcept a) (.ofExcept a)
  and_then : ∀ (α β : Type) (a b : Answer α) (f g : α → Answer β), R α a b →
    (∀ x, a.outcome = .ok x → R β (f x) (g x)) → R β (a.andThen f) (b.andThen g)
  all_of : ∀ (α β : Type) (f g : α → Answer β) (items : List α), (∀ x ∈ items, R β (f x) (g x)) →
    R (List β) (Answer.allOf f items) (Answer.allOf g items)
  recorded : ∀ (a b : Answer (List Series)) (records : Bool) (name : String), R (List Series) a b →
    R (List Series) (a.followedBy records (.evaluated name a.succeeded))
      (b.followedBy records (.evaluated name b.succeeded))

def Call.evaluated (c : Call Expr) : List Expr := if c.name ∈ Combiner.names then c.arguments else c.arguments.take 1

theorem evaluated_mem (c : Call Expr) (e : Expr) (member : e ∈ c.evaluated) : e ∈ c.arguments := by
  unfold Call.evaluated at member
  split at member
  · exact member
  · exact List.mem_of_mem_take member

theorem first_evaluated (c : Call Expr) (name : String) (e : Expr) (given : c.seriesArgument 0 name = .ok e) :
    e ∈ c.evaluated := by
  obtain ⟨found, _⟩ := series_argument_found c 0 name e given
  unfold Call.evaluated
  split
  · exact List.mem_of_getElem? found
  · exact List.mem_of_getElem? (i := 0) (by rw [List.getElem?_take_of_lt Nat.zero_lt_one, found])

theorem combiner_named (name : String) (combiner : Combiner) (named : Combiner.ofName name = .ok combiner) :
    name ∈ Combiner.names := by
  unfold Combiner.ofName at named
  split at named
  next found =>
    have same := List.find?_some found
    exact List.mem_map.mpr ⟨_, List.mem_of_find?_eq_some found, of_decide_eq_true same⟩
  next => cases named

def Grouping.names : List String := ["groupByNode", "groupByNodes"]

structure RelatedScopes (R : AnswerRelation) (c : Call Expr) (left right : Scope) : Prop where
  arguments : ∀ e ∈ c.evaluated, R _ (left.evaluate e) (right.evaluate e)
  lists : c.name ∈ Combiner.names → R _ (left.argumentLists c) (right.argumentLists c)
  template : ∀ callback, R _ (.ofExcept (Grouping.template left c callback))
    (.ofExcept (Grouping.template right c callback))
  groups : c.name ∈ Grouping.names → ∀ series o e found,
    (left.seriesArgument c 0 "seriesList").outcome = .ok series → Grouping.options c = .ok o →
    Grouping.template left c o.callback = .ok e → Grouping.groups c o series = .ok found → ∀ group ∈ found,
      R _ (Grouping.keepOrDrop left c (Grouping.evaluateGroup left e group))
        (Grouping.keepOrDrop right c (Grouping.evaluateGroup right e group))

namespace Congruence

variable {R : AnswerRelation} (respects : Congruence R)

include respects

theorem done {α : Type} (x : α) : R α (.done x) (.done x) := respects.own α (.ok x) (.ok x)

theorem in_order {α β : Type} (f g : α → Answer β) (items : List α) (each : ∀ x ∈ items, R β (f x) (g x)) :
    R (List β) (Answer.inOrder f items) (Answer.inOrder g items) := by
  induction items with
  | nil => exact respects.done []
  | cons item rest ih =>
      obtain ⟨here, later⟩ := List.forall_mem_cons.mp each
      refine respects.and_then _ _ _ _ _ _ here fun x _ => respects.and_then _ _ _ _ _ _ (ih later) fun more _ => ?_
      exact respects.done (x :: more)

theorem argument_lists {c : Call Expr} {left right : Scope}
    (same : left.settings.parallelArguments = right.settings.parallelArguments)
    (arguments : ∀ e ∈ c.arguments, R _ (left.evaluate e) (right.evaluate e)) :
    R _ (left.argumentLists c) (right.argumentLists c) := by
  unfold Scope.argumentLists
  rw [same]
  split
  · exact respects.all_of _ _ _ _ _ arguments
  · exact respects.in_order _ _ _ arguments

variable {c : Call Expr} {left right : Scope}

theorem series_argument (arguments : ∀ e ∈ c.evaluated, R _ (left.evaluate e) (right.evaluate e)) (name : String) :
    R _ (left.seriesArgument c 0 name) (right.seriesArgument c 0 name) := by
  rw [TargetEval.series_argument, TargetEval.series_argument]
  refine respects.and_then _ _ _ _ _ _ (respects.own _ _ (series_argument_shallow c 0 name)) fun e given => ?_
  exact arguments e (first_evaluated c name e given)

theorem all_series (lists : R _ (left.argumentLists c) (right.argumentLists c)) (name : String) :
    R _ (left.allSeries c name) (right.allSeries c name) := by
  rw [TargetEval.all_series, TargetEval.all_series]
  refine respects.and_then _ _ _ _ _ _ (respects.own _ _ (argument_shallow c 0 name _)) fun _ _ => ?_
  refine respects.and_then _ _ _ _ _ _ (respects.own _ _ (check_series_shallow c 0 name _)) fun _ _ => ?_
  refine respects.and_then _ _ _ _ _ _ lists fun found _ => ?_
  split
  · exact respects.own _ _ (.error nofun)
  · exact respects.done _

theorem computing {f : Function} {compute : Call Expr → List Series → Except Error (List Series)}
    (computes : f.Computes compute) (shallow : ∀ series, Shallow (compute c series))
    (related : RelatedScopes R c left right) : R _ (f.run left c) (f.run right c) := by
  rw [computes, computes]
  refine respects.and_then _ _ _ _ _ _ (respects.series_argument related.arguments _) fun series _ => ?_
  exact respects.own _ _ (shallow series)

theorem combining (related : RelatedScopes R c left right) :
    R _ (Combiner.function.run left c) (Combiner.function.run right c) := by
  rw [combiner_run, combiner_run]
  refine respects.and_then _ _ _ _ _ _ (respects.own _ _ (combiner_shallow c.name)) fun combiner named => ?_
  have listed := combiner_named c.name combiner named
  refine respects.and_then _ _ _ _ _ _ (respects.all_series (related.lists listed) _) fun series _ => ?_
  exact respects.own _ _ (combiner_compute_shallow c series combiner)

theorem grouping (listed : c.name ∈ Grouping.names) (related : RelatedScopes R c left right) :
    R _ (Grouping.function.run left c) (Grouping.function.run right c) := by
  rw [grouping_run, grouping_run]
  refine respects.and_then _ _ _ _ _ _ (respects.series_argument related.arguments _) fun series given => ?_
  refine respects.and_then _ _ _ _ _ _ (respects.own _ _ (grouping_options_shallow c)) fun o chosen => ?_
  refine respects.and_then _ _ _ _ _ _ (related.template o.callback) fun e read => ?_
  refine respects.and_then _ _ _ _ _ _ (respects.own _ _ (groups_shallow c series o)) fun found grouped => ?_
  refine respects.and_then _ _ _ _ _ _ (respects.in_order _ _ _ ?_) fun results _ => respects.done _
  exact related.groups listed series o e found given chosen read grouped

theorem builtin (row : List String × Function) (listed : row ∈ Builtin.table) (named : c.name ∈ row.1)
    (related : RelatedScopes R c left right) : R _ (row.2.run left c) (row.2.run right c) := by
  simp only [Builtin.table, List.mem_cons, List.not_mem_nil, or_false] at listed
  rcases listed with rfl | rfl | rfl | rfl | rfl | rfl
  · exact respects.combining related
  · exact respects.computing aggregate_computes (aggregate_shallow c) related
  · exact respects.computing rollup_computes (rollup_shallow c) related
  · exact respects.computing threshold_computes (threshold_shallow c) related
  · exact respects.grouping named related
  · exact respects.computing smoothing_computes (smoothing_shallow c) related

end Congruence

def Evaluator.scopeOver (ev : Evaluator) (window : Window) (depth : Nat)
    (below : SeriesIndex → Expr → Answer (List Series)) (index : SeriesIndex) : Scope where
  settings := ev.settings
  window := window
  index := index
  depth := depth
  isRegistered := ev.registry.contains
  read := ev.read
  evaluateIn := below

def Evaluator.visit (ev : Evaluator) (window : Window) (depth : Nat)
    (below : SeriesIndex → Expr → Answer (List Series)) (index : SeriesIndex) : Expr → Answer (List Series)
  | .metric name _ => .done (index.get ⟨name, window⟩)
  | .call c =>
      match ev.registry.resolve c.name c.position with
      | .error e => .fail e
      | .ok function =>
          let answer := function.run (ev.scopeOver window depth below index) c
          answer.followedBy ev.settings.recordsMetrics (.evaluated c.name answer.succeeded)
  | .number value => .fail (literalError (.number value))
  | .string value => .fail (literalError (.string value))
  | .boolean value => .fail (literalError (.boolean value))

theorem node_visit (ev : Evaluator) (window : Window) (levels : Nat) (index : SeriesIndex) (e : Expr) :
    ev.node window (levels + 1) index e =
      ev.visit window (ev.settings.maxDepth - levels) (ev.node window levels) index e := by
  cases e <;> rfl

theorem node_succ (ev : Evaluator) (window : Window) (levels : Nat) :
    ev.node window (levels + 1) = ev.visit window (ev.settings.maxDepth - levels) (ev.node window levels) := by
  funext index e
  exact node_visit ev window levels index e

section

variable (ev : Evaluator) (window : Window) (depth : Nat) (below : SeriesIndex → Expr → Answer (List Series))
  (index : SeriesIndex) (c : Call Expr)

theorem visit_call (f : Function) (resolved : ev.registry.resolve c.name c.position = .ok f) :
    ev.visit window depth below index (.call c) =
      (f.run (ev.scopeOver window depth below index) c).followedBy ev.settings.recordsMetrics
        (.evaluated c.name (f.run (ev.scopeOver window depth below index) c).succeeded) := by
  simp only [Evaluator.visit, resolved]

theorem visit_unresolved (e : Error) (unresolved : ev.registry.resolve c.name c.position = .error e) :
    ev.visit window depth below index (.call c) = .fail e := by
  simp only [Evaluator.visit, unresolved]

end

structure Variants (left right : Evaluator) : Prop where
  builtin : left.registry = Builtin.registry
  registry : left.registry = right.registry
  read : left.read = right.read
  records : left.settings.recordsMetrics = right.settings.recordsMetrics

def Evaluator.under (ev : Evaluator) (settings : EvaluatorSettings) : Evaluator := { ev with settings }

theorem variants_under (ev : Evaluator) (builtin : ev.registry = Builtin.registry) (first second : EvaluatorSettings)
    (records : first.recordsMetrics = second.recordsMetrics) : Variants (ev.under first) (ev.under second) :=
  ⟨builtin, rfl, rfl, records⟩

theorem Variants.template {left right : Evaluator} (variants : Variants left right) (window : Window)
    (depth other : Nat) (below under : SeriesIndex → Expr → Answer (List Series)) (index : SeriesIndex)
    (c : Call Expr) (callback : String) :
    Grouping.template (left.scopeOver window depth below index) c callback =
      Grouping.template (right.scopeOver window other under index) c callback := by
  obtain ⟨registry, read, settings⟩ := left
  obtain ⟨_, _, others⟩ := right
  obtain ⟨_, rfl, rfl, _⟩ := variants
  rfl

theorem resolve_shallow (r : Registry Function) (name : String) (position : Nat) : Shallow (r.resolve name position) := by
  unfold Registry.resolve
  split
  · exact .ok _
  · exact .error nofun

theorem keep_or_drop_same_outcome (left right : Scope)
    (lenient : left.settings.lenientGrouping = right.settings.lenientGrouping) (c : Call Expr)
    (a b : Answer (List Series)) (same : a.outcome = b.outcome) :
    (Grouping.keepOrDrop left c a).outcome = (Grouping.keepOrDrop right c b).outcome := by
  rw [Grouping.keep_or_drop_outcome, Grouping.keep_or_drop_outcome, lenient, same]

theorem keep_or_drop_over (left right : Evaluator)
    (lenient : left.settings.lenientGrouping = right.settings.lenientGrouping)
    (records : left.settings.recordsMetrics = right.settings.recordsMetrics) (window : Window) (depth other : Nat)
    (below under : SeriesIndex → Expr → Answer (List Series)) (index : SeriesIndex) (c : Call Expr)
    (a : Answer (List Series)) :
    Grouping.keepOrDrop (left.scopeOver window depth below index) c a =
      Grouping.keepOrDrop (right.scopeOver window other under index) c a := by
  unfold Grouping.keepOrDrop Evaluator.scopeOver
  rw [lenient, records]

theorem Congruence.group {R : AnswerRelation} (respects : Congruence R) (left right : Evaluator) (window : Window)
    (depth other : Nat) (below under : SeriesIndex → Expr → Answer (List Series)) (index : SeriesIndex) (e : Expr)
    (g : Grouping.Group)
    (evaluated : R _ (below (.single ⟨g.1, window⟩ g.2) (e.rename Grouping.placeholder g.1))
      (under (.single ⟨g.1, window⟩ g.2) (e.rename Grouping.placeholder g.1))) :
    R _ (Grouping.evaluateGroup (left.scopeOver window depth below index) e g)
      (Grouping.evaluateGroup (right.scopeOver window other under index) e g) :=
  respects.and_then _ _ _ _ _ _ evaluated fun _ _ => respects.done _

theorem Congruence.visit {R : AnswerRelation} (respects : Congruence R) {left right : Evaluator}
    (variants : Variants left right) (window : Window) (depth other : Nat)
    (below under : SeriesIndex → Expr → Answer (List Series)) (index : SeriesIndex) (e : Expr)
    (scopes : ∀ c, e = .call c →
      RelatedScopes R c (left.scopeOver window depth below index) (right.scopeOver window other under index)) :
    R _ (left.visit window depth below index e) (right.visit window other under index e) := by
  cases e with
  | metric name position => exact respects.done _
  | number value => exact respects.own _ _ (.error nofun)
  | string value => exact respects.own _ _ (.error nofun)
  | boolean value => exact respects.own _ _ (.error nofun)
  | call c =>
      cases resolved : left.registry.resolve c.name c.position with
      | error e =>
          have shallow := resolve_shallow left.registry c.name c.position
          rw [resolved] at shallow
          rw [visit_unresolved left _ _ _ _ c e resolved,
            visit_unresolved right _ _ _ _ c e (variants.registry ▸ resolved)]
          exact respects.own _ _ (.error fun d limit same => shallow d limit (congrArg Except.error same))
      | ok f =>
          rw [visit_call left _ _ _ _ c f resolved, visit_call right _ _ _ _ c f (variants.registry ▸ resolved),
            ← variants.records]
          rw [variants.builtin] at resolved
          obtain ⟨row, listed, named, rfl⟩ := Builtin.resolve_row c.name c.position f resolved
          exact respects.recorded _ _ _ _ (respects.builtin row listed named (scopes c rfl))

end TargetEval
