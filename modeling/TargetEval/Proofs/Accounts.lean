import Mathlib.Algebra.BigOperators.Ring.Finset
import TargetEval.Proofs.Counters
import TargetEval.Proofs.Registrations
import TargetEval.Proofs.Sources
import TargetEval.Proofs.Successes
import TargetEval.Proofs.Templates

set_option autoImplicit false

namespace TargetEval

mutual

-- The calls that are evaluated for the series of an expression: its own, and those among the
-- arguments that its function evaluates, which are all for a combinator and the first for any
-- other.
def Expr.evaluatedCalls : Expr → Nat
  | .call ⟨name, arguments, _, _, _⟩ =>
      1 + if name ∈ Combiner.names then callsOfAll arguments else callsOfFirst arguments
  | _ => 0

def callsOfAll : List Expr → Nat
  | [] => 0
  | e :: rest => e.evaluatedCalls + callsOfAll rest

def callsOfFirst : List Expr → Nat
  | [] => 0
  | e :: _ => e.evaluatedCalls

end

theorem evaluated_calls (c : Call Expr) :
    (Expr.call c).evaluatedCalls = 1 + (c.evaluated.map Expr.evaluatedCalls).sum := by
  change 1 + (if c.name ∈ Combiner.names then callsOfAll c.arguments else callsOfFirst c.arguments) = _
  rw [Call.evaluated]
  congr 1
  split
  · induction c.arguments with
    | nil => rfl
    | cons e rest ih => rw [callsOfAll, ih, List.map_cons, List.sum_cons]
  · cases c.arguments with
    | nil => rfl
    | cons e rest => exact (Nat.add_zero _).symm

def Evaluator.groupAnswers (ev : Evaluator) (window : Window) :
    (levels : Nat) → SeriesIndex → Expr → List (Answer (List Series))
  | levels + 1, index, .call c =>
      c.evaluated.flatMap (groupAnswers ev window levels index) ++
        if c.name ∈ Grouping.names then
          (Grouping.groupAnswers (ev.scope window levels index) c).toOption.getD []
        else []
  | _, _, _ => []

def Evaluator.formedGroups (ev : Evaluator) (e : Expr) (window : Window) (index : SeriesIndex) :
    List (Answer (List Series)) :=
  ev.groupAnswers window (ev.settings.maxDepth + 1) index e

structure Accounted (events : List Event) (calls : Nat) (groups : List (Answer (List Series))) : Prop where
  successes : events.countP (Event.isEvaluation true) = calls + groups.countP Answer.succeeded
  failures : events.countP (Event.isEvaluation false) = groups.countP fun a => !a.succeeded
  drops : events.countP Event.isDrop = groups.countP fun a => !a.succeeded
  functions : ∀ event ∈ events, Builtin.registry.contains event.function = true

namespace Accounted

theorem nil : Accounted [] 0 [] := ⟨rfl, rfl, rfl, nofun⟩

theorem call (name : String) (known : Builtin.registry.contains name = true) :
    Accounted [.evaluated name true] 1 [] :=
  ⟨rfl, rfl, rfl, List.forall_mem_singleton.mpr known⟩

theorem append {first second : List Event} {calls more : Nat} {groups others : List (Answer (List Series))}
    (here : Accounted first calls groups) (there : Accounted second more others) :
    Accounted (first ++ second) (calls + more) (groups ++ others) where
  successes := by
    rw [List.countP_append, List.countP_append, here.successes, there.successes]
    omega
  failures := by rw [List.countP_append, List.countP_append, here.failures, there.failures]
  drops := by rw [List.countP_append, List.countP_append, here.drops, there.drops]
  functions := List.forall_mem_append.mpr ⟨here.functions, there.functions⟩

theorem flat_map {α : Type} (events : α → List Event) (calls : α → Nat) (groups : α → List (Answer (List Series)))
    (items : List α) (each : ∀ x ∈ items, Accounted (events x) (calls x) (groups x)) :
    Accounted (items.flatMap events) (items.map calls).sum (items.flatMap groups) := by
  induction items with
  | nil => exact nil
  | cons item rest ih =>
      obtain ⟨here, later⟩ := List.forall_mem_cons.mp each
      exact here.append (ih later)

theorem each_group {α : Type} (events : α → List Event) (answer : α → Answer (List Series)) (items : List α)
    (each : ∀ x ∈ items, Accounted (events x) 0 [answer x]) :
    Accounted (items.flatMap events) 0 (items.map answer) := by
  induction items with
  | nil => exact nil
  | cons item rest ih =>
      obtain ⟨here, later⟩ := List.forall_mem_cons.mp each
      exact here.append (ih later)

end Accounted

theorem node_leaf_events (ev : Evaluator) (window : Window) (levels : Nat) (index : SeriesIndex) (e : Expr)
    (leaf : ∀ c, e ≠ .call c) : (ev.node window levels index e).events = [] := by
  cases levels with
  | zero => rfl
  | succ levels =>
      rw [node_visit, visit_leaf ev window _ _ index e leaf]
      rfl

theorem quiet_and_then {α β : Type} (a : Answer α) (f : α → Answer β) (first : a.events = [])
    (next : ∀ x, a.outcome = .ok x → (f x).events = []) : (a.andThen f).events = [] := by
  cases outcome : a.outcome with
  | error e => simp only [Answer.andThen, outcome, first]
  | ok x => rw [Answer.and_then_ok a f x outcome, first, next x outcome, List.nil_append]

theorem and_then_done {α β : Type} (a : Answer α) (f : α → β) :
    (a.andThen fun x => .done (f x)).events = a.events ∧ (a.andThen fun x => .done (f x)).succeeded = a.succeeded := by
  obtain ⟨outcome, events⟩ := a
  cases outcome with
  | ok x => exact ⟨List.append_nil events, rfl⟩
  | error e => exact ⟨rfl, rfl⟩

theorem callback_run_quiet (scope : Scope) (c : Call Expr) (callback : Grouping.IsCallback c)
    (leaves : ∀ e ∈ c.arguments, (scope.evaluate e).events = []) (row : List String × Function)
    (listed : row ∈ Builtin.table) (named : c.name ∈ row.1) : (row.2.run scope c).events = [] := by
  have argument : (scope.seriesArgument c 0 "seriesList").events = [] := by
    rw [series_argument]
    exact quiet_and_then _ _ rfl fun e given => leaves e (series_argument_mem c 0 _ e given)
  have computing : ∀ {f : Function} {compute : Call Expr → List Series → Except Error (List Series)},
      f.Computes compute → (f.run scope c).events = [] := fun computes => by
    rw [computes]
    exact quiet_and_then _ _ argument fun _ _ => rfl
  simp only [Builtin.table, List.mem_cons, List.not_mem_nil, or_false] at listed
  rcases listed with rfl | rfl | rfl | rfl | rfl | rfl
  · have lists : (scope.argumentLists c).events = [] := by
      have same : ∀ e ∈ c.arguments, scope.evaluate e = .ofExcept (scope.evaluate e).outcome := fun e member =>
        congrArg (Answer.mk _) (leaves e member)
      rw [quiet_lists scope c _ same]
      rfl
    rw [combiner_run, all_series]
    refine quiet_and_then _ _ rfl fun combiner _ => quiet_and_then _ _ ?_ fun _ _ => rfl
    refine quiet_and_then _ _ rfl fun _ _ => quiet_and_then _ _ rfl fun _ _ => quiet_and_then _ _ lists fun _ _ => ?_
    split
    · rfl
    · rfl
  · exact computing aggregate_computes
  · exact computing rollup_computes
  · exact computing threshold_computes
  · rw [grouping_run]
    refine quiet_and_then _ _ argument fun series _ => quiet_and_then _ _ rfl fun o chosen => ?_
    exact absurd chosen (Grouping.callback_no_options c callback named o)
  · exact computing smoothing_computes

section

variable (ev : Evaluator) (builtin : ev.registry = Builtin.registry) (records : ev.settings.recordsMetrics = true)
  (window : Window)

include builtin records

theorem callback_events (levels : Nat) (index : SeriesIndex) (c : Call Expr) (callback : Grouping.IsCallback c)
    (known : Builtin.registry.contains c.name = true) :
    (ev.node window (levels + 1) index (.call c)).events =
      [.evaluated c.name (ev.node window (levels + 1) index (.call c)).succeeded] := by
  obtain ⟨row, listed, named⟩ := Grouping.registered_row c.name known
  have resolved := Builtin.resolve_listed row listed c.name named c.position
  have quiet := callback_run_quiet (ev.scope window levels index) c callback
    (fun e member => node_leaf_events ev window levels index e (Grouping.callback_leaves c callback e member))
    row listed named
  rw [node_call ev window levels index c row.2 (builtin ▸ resolved), records]
  simp only [Answer.followedBy, ↓reduceIte, quiet, List.nil_append]
  rfl

theorem group_events (reads : ev.read = Target.read) (levels : Nat) (index : SeriesIndex) (c : Call Expr)
    (callback : String) (template : Expr)
    (given : Grouping.template (ev.scope window (levels + 1) index) c callback = .ok template) (g : Grouping.Group) :
    ∃ name, Builtin.registry.contains name = true ∧
      (Grouping.evaluateGroup (ev.scope window (levels + 1) index) template g).events =
        [.evaluated name (Grouping.evaluateGroup (ev.scope window (levels + 1) index) template g).succeeded] := by
  obtain ⟨call, there, shape, known⟩ := group_callback ev builtin reads window _ index c callback template given g.1
  have once := callback_events ev builtin records window levels (.single ⟨g.1, window⟩ g.2) call shape known
  obtain ⟨events, succeeded⟩ := and_then_done (ev.node window (levels + 1) (.single ⟨g.1, window⟩ g.2)
    (template.rename Grouping.placeholder g.1)) (Grouping.labelled g.1)
  rw [← there] at once
  exact ⟨call.name, known, events.trans (succeeded ▸ once)⟩

end

theorem group_accounted (scope : Scope) (records : scope.settings.recordsMetrics = true) (c : Call Expr)
    (known : Builtin.registry.contains c.name = true) (a : Answer (List Series)) (name : String)
    (registered : Builtin.registry.contains name = true) (once : a.events = [.evaluated name a.succeeded])
    (result : List Series) (ok : (Grouping.keepOrDrop scope c a).outcome = .ok result) :
    Accounted (Grouping.keepOrDrop scope c a).events 0 [a] := by
  cases kept : a.succeeded with
  | true =>
      rw [kept] at once
      have same : Grouping.keepOrDrop scope c a = a := by simp [Grouping.keepOrDrop, kept]
      rw [same, once]
      exact ⟨by simp [Event.isEvaluation, kept], by simp [Event.isEvaluation, kept], by simp [Event.isDrop, kept],
        List.forall_mem_singleton.mpr registered⟩
  | false =>
      rw [kept] at once
      have lenient : scope.settings.lenientGrouping = true := by
        by_contra strict
        rw [Grouping.keep_or_drop_strict scope (Bool.eq_false_iff.mpr strict)] at ok
        rw [Answer.succeeded, ok] at kept
        cases kept
      have dropped : (Grouping.keepOrDrop scope c a).events = [.evaluated name false, .dropped c.name] := by
        simp [Grouping.keepOrDrop, Answer.followedBy, lenient, kept, records, once]
      rw [dropped]
      exact ⟨by simp [Event.isEvaluation, kept], by simp [Event.isEvaluation, kept], by simp [Event.isDrop, kept],
        List.forall_mem_cons.mpr ⟨registered, List.forall_mem_singleton.mpr known⟩⟩

theorem plain_run (scope : Scope) (c : Call Expr) (row : List String × Function) (listed : row ∈ Builtin.table)
    (named : c.name ∈ row.1) (plain : c.name ∉ Grouping.names) (result : List Series)
    (ok : (row.2.run scope c).outcome = .ok result) :
    (∀ e ∈ c.evaluated, ∃ series, (scope.evaluate e).outcome = .ok series) ∧
      (row.2.run scope c).events = c.evaluated.flatMap fun e => (scope.evaluate e).events := by
  have computing : ∀ {f : Function} {compute : Call Expr → List Series → Except Error (List Series)},
      f.Computes compute → c.name ∉ Combiner.names → (f.run scope c).outcome = .ok result →
        (∀ e ∈ c.evaluated, ∃ series, (scope.evaluate e).outcome = .ok series) ∧
          (f.run scope c).events = c.evaluated.flatMap fun e => (scope.evaluate e).events := by
    intro f compute computes alone ok
    obtain ⟨e, series, only, _, evaluated, _, events⟩ := computing_success computes scope c alone result ok
    rw [only, List.flatMap_singleton]
    exact ⟨List.forall_mem_singleton.mpr ⟨series, evaluated⟩, events⟩
  have alone := fun different => row_alone row listed different c.name named
  simp only [Builtin.table, List.mem_cons, List.not_mem_nil, or_false] at listed
  rcases listed with rfl | rfl | rfl | rfl | rfl | rfl
  · obtain ⟨_, lists, evaluated, _, events⟩ := combining_success scope c result ok
    rw [Call.evaluated, if_pos named]
    exact ⟨Answer.ok_of_map_m _ _ lists evaluated, events⟩
  · exact computing aggregate_computes (alone (by decide)) ok
  · exact computing rollup_computes (alone (by decide)) ok
  · exact computing threshold_computes (alone (by decide)) ok
  · exact absurd named plain
  · exact computing smoothing_computes (alone (by decide)) ok

section

variable (ev : Evaluator) (builtin : ev.registry = Builtin.registry) (reads : ev.read = Target.read)
  (records : ev.settings.recordsMetrics = true) (window : Window)

include builtin reads records

theorem run_accounted (levels : Nat) (index : SeriesIndex) (c : Call Expr) (row : List String × Function)
    (listed : row ∈ Builtin.table) (named : c.name ∈ row.1) (result : List Series)
    (ok : (row.2.run (ev.scope window levels index) c).outcome = .ok result)
    (below : ∀ e series, (ev.node window levels index e).outcome = .ok series →
      Accounted (ev.node window levels index e).events e.evaluatedCalls (ev.groupAnswers window levels index e)) :
    Accounted (row.2.run (ev.scope window levels index) c).events (c.evaluated.map Expr.evaluatedCalls).sum
      (ev.groupAnswers window (levels + 1) index (.call c)) := by
  rw [Evaluator.groupAnswers]
  by_cases grouping : c.name ∈ Grouping.names
  · have same := Builtin.row_unique row (Grouping.names, Grouping.function) listed
      (by simp [Builtin.table, Grouping.names]) c.name named grouping
    subst same
    obtain ⟨e, series, o, template, found, lists, only, evaluated, _, read, _, answers, kept, _, events⟩ :=
      grouping_success _ c grouping result ok
    rw [events, only, List.flatMap_singleton, List.map_singleton, List.sum_singleton, if_pos grouping, answers]
    -- The argument was evaluated one level below the call, so the callbacks are too.
    cases levels with
    | zero => cases evaluated
    | succ levels =>
        refine (below e series evaluated).append (.each_group _ _ found fun g member => ?_)
        obtain ⟨once, done⟩ := Answer.ok_of_map_m _ found lists kept g member
        obtain ⟨name, known, happened⟩ := group_events ev builtin records window reads levels index c _ template read g
        have called := Builtin.rows_registered _ listed c.name named
        exact group_accounted _ records c called _ name known happened once done
  · obtain ⟨succeeded, events⟩ := plain_run _ c row listed named grouping result ok
    rw [events, if_neg grouping, List.append_nil]
    refine .flat_map _ _ _ c.evaluated fun e member => ?_
    obtain ⟨series, evaluated⟩ := succeeded e member
    exact below e series evaluated

theorem node_accounted (levels : Nat) :
    ∀ index e result, (ev.node window levels index e).outcome = .ok result →
      Accounted (ev.node window levels index e).events e.evaluatedCalls (ev.groupAnswers window levels index e) := by
  induction levels with
  | zero =>
      intro index e result impossible
      cases impossible
  | succ levels ih =>
      intro index e result ok
      cases e with
      | metric name position => exact .nil
      | number value => cases ok
      | string value => cases ok
      | boolean value => cases ok
      | call c =>
          obtain ⟨row, listed, named, ran, whole⟩ := call_success ev builtin window levels index c result ok
          have accounted := run_accounted ev builtin reads records window levels index c row listed named result ran
            (ih index)
          have called := accounted.append (.call c.name (Builtin.rows_registered row listed c.name named))
          rw [List.append_nil] at called
          rwa [whole, records, evaluated_calls, Nat.add_comm]

end

namespace Telemetry

def totalGrowth (counter : Telemetry → String → Nat) (before after : Telemetry) : Int :=
  ∑ function ∈ Builtin.registry.names.toFinset, growth counter before after function

section

variable (before : Telemetry) (timed : List (Event × Float)) (events : List Event)
  (recorded : (timed.map Prod.fst).Perm events)
  (registered : ∀ event ∈ events, Builtin.registry.contains event.function = true)

include recorded registered

theorem total_growth_count (counter : Telemetry → String → Nat) (kind : String → Event) (ofKind : Event → Bool)
    (kinds : ∀ event function, event = kind function ↔ ofKind event = true ∧ event.function = function)
    (counts : ∀ function, growth counter before (before.recordAllTimed timed) function =
      (timed.map Prod.fst).count (kind function)) :
    totalGrowth counter before (before.recordAllTimed timed) = events.countP ofKind := by
  have all : ∀ event ∈ events, event.function ∈ Builtin.registry.names.toFinset := fun event member =>
    List.mem_toFinset.mpr ((ByName.mem_keys _ _).mpr (registered event member))
  simp only [totalGrowth, counts, recorded.count_eq]
  rw [← Nat.cast_sum, sum_count kind ofKind kinds _ events all]

theorem total_growth_evaluations (outcome : Bool) :
    totalGrowth (evaluationsTotal · · outcome) before (before.recordAllTimed timed) =
      events.countP (Event.isEvaluation outcome) := by
  refine total_growth_count before timed events recorded registered _ (.evaluated · outcome) _ ?_ fun function =>
    growth_evaluations before timed function outcome
  intro event function
  cases event <;> simp [Event.isEvaluation, Event.function, and_comm]

theorem total_growth_dropped :
    totalGrowth droppedTotal before (before.recordAllTimed timed) = events.countP Event.isDrop := by
  refine total_growth_count before timed events recorded registered _ .dropped _ ?_ (growth_dropped before timed)
  intro event function
  cases event <;> simp [Event.isDrop, Event.function]

theorem unregistered_count (event : Event) (unregistered : event.function ∉ Builtin.registry.names) :
    (timed.map Prod.fst).count event = 0 := by
  rw [recorded.count_eq]
  exact List.count_eq_zero_of_not_mem fun member =>
    unregistered ((ByName.mem_keys _ _).mpr (registered event member))

end

end Telemetry

open Telemetry in
/-- Whatever was counted before, in whatever order the events of an evaluation are recorded and however
long they took: if there is a result, failures have grown by as much as drops, which is the number of
groups that failed, and successes by the number of calls evaluated for the result and of groups kept.
Every success and failure comes with a duration, and functions that are not registered count nothing. -/
theorem counters_account (settings : EvaluatorSettings) (records : settings.recordsMetrics = true) (e : Expr)
    (window : Window) (index : SeriesIndex) (result : List Series)
    (succeeded : ((Builtin.evaluatorWith settings).evaluate e window index).outcome = .ok result)
    (before : Telemetry) (timed : List (Event × Float))
    (recorded : (timed.map Prod.fst).Perm ((Builtin.evaluatorWith settings).evaluate e window index).events) :
    totalGrowth (evaluationsTotal · · false) before (before.recordAllTimed timed) =
        totalGrowth droppedTotal before (before.recordAllTimed timed) ∧
      totalGrowth droppedTotal before (before.recordAllTimed timed) =
        ((Builtin.evaluatorWith settings).formedGroups e window index).countP (fun a => !a.succeeded) ∧
      totalGrowth (evaluationsTotal · · true) before (before.recordAllTimed timed) =
        e.evaluatedCalls + ((Builtin.evaluatorWith settings).formedGroups e window index).countP Answer.succeeded ∧
      (∀ function, growth durationsTotal before (before.recordAllTimed timed) function =
        growth (evaluationsTotal · · true) before (before.recordAllTimed timed) function +
          growth (evaluationsTotal · · false) before (before.recordAllTimed timed) function) ∧
      ∀ function ∉ Builtin.registry.names,
        (∀ outcome, growth (evaluationsTotal · · outcome) before (before.recordAllTimed timed) function = 0) ∧
          growth droppedTotal before (before.recordAllTimed timed) function = 0 := by
  have accounted : Accounted ((Builtin.evaluatorWith settings).evaluate e window index).events e.evaluatedCalls
      ((Builtin.evaluatorWith settings).formedGroups e window index) :=
    node_accounted (Builtin.evaluatorWith settings) rfl rfl records window (settings.maxDepth + 1) index e result
      succeeded
  have registered := accounted.functions
  have failed := total_growth_evaluations before timed _ recorded registered false
  have dropped := total_growth_dropped before timed _ recorded registered
  have kept := total_growth_evaluations before timed _ recorded registered true
  refine ⟨?_, ?_, ?_, growth_durations before timed, fun function unregistered => ⟨fun outcome => ?_, ?_⟩⟩
  · rw [failed, dropped, accounted.failures, accounted.drops]
  · rw [dropped, accounted.drops]
  · rw [kept, accounted.successes, Nat.cast_add]
  · rw [growth_evaluations,
      unregistered_count timed _ recorded registered (.evaluated function outcome) unregistered, Nat.cast_zero]
  · rw [growth_dropped, unregistered_count timed _ recorded registered (.dropped function) unregistered, Nat.cast_zero]

def unevenHosts : List Series :=
  [.ofValues "hosts.a" 0 1 [1.0], .ofValues "hosts.a" 0 1 [1.0, 2.0], .ofValues "hosts.b" 0 1 [3.0]]

def keptHost : Expr := .call ⟨"sumSeries", [byHost], [], "groupByNode(hosts.*, 1, 'sum')", 0⟩

def keptHostTimed : List (Event × Float) :=
  [(.dropped "groupByNode", 0.0), (.evaluated "sum" false, 0.25), (.evaluated "sum" true, 0.5),
    (.evaluated "groupByNode" true, 1.0), (.evaluated "sumSeries" true, 1.5)]

open Telemetry in
theorem kept_host_accounted :
    ((Builtin.evaluatorWith Settings.default.evaluator).evaluate keptHost ⟨0, 2⟩
        (.single ⟨"hosts.*", ⟨0, 2⟩⟩ unevenHosts)).outcome =
          .ok [.ofValues "sumSeries(groupByNode(hosts.*, 1, 'sum'))" 0 1 [3.0]] ∧
      totalGrowth (evaluationsTotal · · false) (.start 0) ((Telemetry.start 0).recordAllTimed keptHostTimed) = 1 ∧
      totalGrowth (evaluationsTotal · · true) (.start 0) ((Telemetry.start 0).recordAllTimed keptHostTimed) = 3 := by
  have outcome : ((Builtin.evaluatorWith Settings.default.evaluator).evaluate keptHost ⟨0, 2⟩
      (.single ⟨"hosts.*", ⟨0, 2⟩⟩ unevenHosts)).outcome =
        .ok [.ofValues "sumSeries(groupByNode(hosts.*, 1, 'sum'))" 0 1 [3.0]] := by
    decide +kernel
  have recorded : (keptHostTimed.map Prod.fst).Perm
      ((Builtin.evaluatorWith Settings.default.evaluator).evaluate keptHost ⟨0, 2⟩
        (.single ⟨"hosts.*", ⟨0, 2⟩⟩ unevenHosts)).events := by
    decide +kernel
  obtain ⟨failures, drops, successes, _⟩ := counters_account Settings.default.evaluator rfl keptHost ⟨0, 2⟩
    (.single ⟨"hosts.*", ⟨0, 2⟩⟩ unevenHosts) _ outcome (.start 0) keptHostTimed recorded
  refine ⟨outcome, ?_, ?_⟩
  · rw [failures, drops]
    decide +kernel
  · rw [successes]
    decide +kernel

end TargetEval
