import TargetEval.Proofs.GroupKeys
import TargetEval.Proofs.MovingMeans
import TargetEval.Proofs.PartialFolds
import TargetEval.Proofs.Sources
import TargetEval.Proofs.Successes
import TargetEval.Proofs.Templates
import TargetEval.Proofs.Timestamps

set_option autoImplicit false

namespace TargetEval

namespace Series

theorem folded_number (fold : List Float → Float) (values : List Float) (x : Float)
    (kept : folded fold values = some x) : x.isNaN = false := by
  unfold folded at kept
  split at kept
  next => cases kept
  next =>
    split at kept
    next => cases kept
    next number =>
      cases kept
      exact Bool.eq_false_iff.mpr number

theorem combine_numeric (name : String) (xs : List Series) (fold : List Float → Float) (result : Series)
    (combined : combine name xs fold = .ok result) : result.Numeric := by
  obtain ⟨_, _, points⟩ := combine_cases name xs fold result combined
  intro x member
  rw [present, points] at member
  obtain ⟨p, listed, rfl⟩ := List.mem_filterMap.mp member
  obtain ⟨i, _, folds⟩ := List.mem_map.mp listed
  exact folded_number fold (xs.filterMap fun s : Series => s.get? i) x folds

theorem bucket_points_numeric (s : Series) (start stop width : Seconds) (buckets : Nat) (r : Reducer) (x : Float)
    (listed : some x ∈ s.bucketPoints start stop width buckets r) : x.isNaN = false := by
  unfold bucketPoints at listed
  rcases List.mem_append.mp listed with reached | beyond
  · obtain ⟨values, _, folds⟩ := List.mem_map.mp reached
    exact r.point_number values x folds
  · cases (List.mem_replicate.mp beyond).2

theorem summarize_numeric (s : Series) (name : String) (width : Seconds) (r : Reducer) (fromStart : Bool)
    (result : Series) (numeric : s.Numeric) (rolled : s.summarize name width r fromStart = .ok result) :
    result.Numeric := by
  by_cases coarse : width < s.step
  · rw [summarize, if_pos coarse] at rolled
    cases rolled
    exact numeric
  · rw [summarize_fine s name width r fromStart coarse] at rolled
    split at rolled
    next => cases rolled
    next =>
      split at rolled
      next => cases rolled
      next =>
        cases rolled
        intro x member
        rw [present_spanning] at member
        obtain ⟨p, listed, rfl⟩ := List.mem_filterMap.mp member
        exact bucket_points_numeric _ _ _ _ _ _ _ listed

end Series

section

variable (c : Call Expr) (series result : List Series)

theorem combiner_numeric (combiner : Combiner) (ok : combiner.compute c series = .ok result) :
    ∀ s ∈ result, s.Numeric := by
  obtain ⟨s, combined, same⟩ := Answer.ok_of_bind _ _ _ ok
  cases same
  exact List.forall_mem_singleton.mpr (Series.combine_numeric _ _ _ s combined)

theorem aggregate_numeric (ok : Aggregate.compute c series = .ok result) : ∀ s ∈ result, s.Numeric := by
  obtain ⟨func, _, named⟩ := Answer.ok_of_bind _ _ _ ok
  obtain ⟨reducer, _, combining⟩ := Answer.ok_of_bind _ _ _ named
  split at combining
  next => cases combining
  next =>
    obtain ⟨s, combined, same⟩ := Answer.ok_of_bind _ _ _ combining
    cases same
    exact List.forall_mem_singleton.mpr (Series.combine_numeric _ _ _ s combined)

theorem weight_bounds (weight : Float) (given : Smoothing.weight c = .ok weight) : 0.0 < weight ∧ weight ≤ 1.0 := by
  obtain ⟨alpha, _, checked⟩ := Answer.ok_of_bind _ _ _ given
  split at checked
  next within =>
    cases checked
    simpa using within
  next => cases checked

variable (numeric : ∀ s ∈ series, s.Numeric)

include numeric

theorem rollup_numeric (ok : Rollup.compute c series = .ok result) : ∀ s ∈ result, s.Numeric := by
  obtain ⟨o, _, applied⟩ := Answer.ok_of_bind _ _ _ ok
  intro s member
  obtain ⟨x, listed, rolled⟩ := Answer.mem_of_map_m _ series result applied s member
  unfold Rollup.Options.apply at rolled
  split at rolled
  next summarized =>
    cases rolled
    exact Series.summarize_numeric x _ _ _ _ s (numeric x listed) summarized
  next => cases rolled

theorem threshold_numeric (ok : Threshold.compute c series = .ok result) : ∀ s ∈ result, s.Numeric := by
  obtain ⟨func, _, ok⟩ := Answer.ok_of_bind _ _ _ ok
  obtain ⟨operator, _, ok⟩ := Answer.ok_of_bind _ _ _ ok
  obtain ⟨threshold, _, ok⟩ := Answer.ok_of_bind _ _ _ ok
  obtain ⟨reducer, _, ok⟩ := Answer.ok_of_bind _ _ _ ok
  obtain ⟨comparison, _, ok⟩ := Answer.ok_of_bind _ _ _ ok
  cases ok
  exact fun s member => numeric s (List.mem_of_mem_filter member)

theorem smoothing_numeric (ok : Smoothing.compute c series = .ok result) :
    ∃ weight, Smoothing.weight c = .ok weight ∧
      ((∀ s ∈ result, s.Numeric) ↔ ∀ s ∈ series, s.breaksMean weight = false) := by
  obtain ⟨weight, given, smoothed⟩ := Answer.ok_of_bind _ _ _ ok
  cases smoothed
  obtain ⟨positive, atMost⟩ := weight_bounds c weight given
  refine ⟨weight, given, ?_⟩
  rw [List.forall_mem_map]
  exact forall₂_congr fun s listed => s.smooth_numeric _ weight positive atMost (numeric s listed)

end

namespace Grouping

theorem kept_or_nothing (scope : Scope) (c : Call Expr) (a : Answer (List Series)) (result : List Series)
    (ok : (keepOrDrop scope c a).outcome = .ok result) : a.outcome = .ok result ∨ result = [] := by
  rw [keep_or_drop_outcome] at ok
  split at ok
  next =>
    cases outcome : a.outcome with
    | ok found =>
        rw [outcome] at ok
        exact .inl ok
    | error e =>
        rw [outcome] at ok
        cases ok
        exact .inr rfl
  next => exact .inl ok

theorem labelled_numeric (key : String) (series : List Series) (numeric : ∀ s ∈ series, s.Numeric) :
    ∀ s ∈ labelled key series, s.Numeric := by
  cases series with
  | nil => exact nofun
  | cons first rest =>
      obtain ⟨here, later⟩ := List.forall_mem_cons.mp numeric
      have renamed : (first.renamed key).Numeric := here
      exact List.forall_mem_cons.mpr ⟨renamed, later⟩

theorem callback_no_weight (c : Call Expr) (callback : IsCallback c) (smoothing : c.name ∈ Smoothing.names)
    (weight : Float) : Smoothing.weight c ≠ .ok weight := by
  obtain ⟨name, arguments, named, argumentText, position⟩ := c
  rcases callback with ⟨metric, place, rfl⟩ | ⟨rfl, _⟩
  · exact nofun
  · simp [Smoothing.names] at smoothing

end Grouping

namespace Smoothing

def smoothed (scope : Scope) (c : Call Expr) : Except Error (List (Series × Float)) := do
  let series ← (scope.seriesArgument c 0 "seriesList").outcome
  let alpha ← weight c
  return series.map fun s => (s, alpha)

def Steady (entries : List (Series × Float)) : Prop := ∀ entry ∈ entries, entry.1.breaksMean entry.2 = false

instance (entries : List (Series × Float)) : Decidable (Steady entries) :=
  inferInstanceAs (Decidable (∀ entry ∈ entries, entry.1.breaksMean entry.2 = false))

theorem steady_append (entries others : List (Series × Float)) :
    Steady (entries ++ others) ↔ Steady entries ∧ Steady others := List.forall_mem_append

theorem steady_flat_map {α : Type} (entries : α → List (Series × Float)) (items : List α) :
    Steady (items.flatMap entries) ↔ ∀ item ∈ items, Steady (entries item) := List.forall_mem_flatMap

theorem numeric_iff_steady (scope : Scope) (c : Call Expr) (named : c.name ∈ names) (result : List Series)
    (ok : (function.run scope c).outcome = .ok result)
    (arguments : ∀ e ∈ c.evaluated, ∀ series, (scope.evaluate e).outcome = .ok series → ∀ s ∈ series, s.Numeric) :
    ∃ entries, smoothed scope c = .ok entries ∧ ((∀ s ∈ result, s.Numeric) ↔ Steady entries) := by
  have alone := row_alone (names, function) (by simp [Builtin.table]) (by decide) c.name named
  obtain ⟨e, series, only, argument, evaluated, computed, _⟩ :=
    computing_success smoothing_computes scope c alone result ok
  obtain ⟨weight, given, exactly⟩ :=
    smoothing_numeric c series result (arguments e (only ▸ List.mem_cons_self) series evaluated) computed
  refine ⟨series.map fun s => (s, weight), ?_, ?_⟩
  · simp only [smoothed, argument, given, Answer.ok_bind]
    rfl
  · rw [exactly, Steady, List.forall_mem_map]

end Smoothing

def Evaluator.smoothedBelow (ev : Evaluator) (window : Window) :
    (levels : Nat) → SeriesIndex → Expr → List (Series × Float)
  | levels + 1, index, .call c =>
      c.evaluated.flatMap (smoothedBelow ev window levels index) ++
        if c.name ∈ Smoothing.names then (Smoothing.smoothed (ev.scope window levels index) c).toOption.getD [] else []
  | _, _, _ => []

def Evaluator.smoothed (ev : Evaluator) (e : Expr) (window : Window) (index : SeriesIndex) : List (Series × Float) :=
  ev.smoothedBelow window (ev.settings.maxDepth + 1) index e

theorem smoothed_leaf (ev : Evaluator) (window : Window) (levels : Nat) (index : SeriesIndex) (e : Expr)
    (leaf : ∀ c, e ≠ .call c) : ev.smoothedBelow window levels index e = [] := by
  cases levels with
  | zero => rfl
  | succ levels =>
      cases e with
      | call c => exact absurd rfl (leaf c)
      | _ => rfl

theorem smoothed_callback (ev : Evaluator) (window : Window) (levels : Nat) (index : SeriesIndex) (c : Call Expr)
    (callback : Grouping.IsCallback c) : ev.smoothedBelow window levels index (.call c) = [] := by
  cases levels with
  | zero => rfl
  | succ levels =>
      rw [Evaluator.smoothedBelow, List.append_eq_nil_iff, List.flatMap_eq_nil_iff]
      constructor
      · exact fun e member =>
          smoothed_leaf ev window levels index e (Grouping.callback_leaves c callback e (evaluated_mem c e member))
      · split
        next smoothing =>
          cases entries : Smoothing.smoothed (ev.scope window levels index) c with
          | error e => rfl
          | ok found =>
              obtain ⟨series, _, weighted⟩ := Answer.ok_of_bind _ _ _ entries
              obtain ⟨weight, given, _⟩ := Answer.ok_of_bind _ _ _ weighted
              exact absurd given (Grouping.callback_no_weight c callback smoothing weight)
        next => rfl

theorem run_numeric (scope : Scope) (c : Call Expr) (row : List String × Function) (listed : row ∈ Builtin.table)
    (named : c.name ∈ row.1) (result : List Series) (ok : (row.2.run scope c).outcome = .ok result)
    (arguments : ∀ e ∈ c.evaluated, ∀ series, (scope.evaluate e).outcome = .ok series → ∀ s ∈ series, s.Numeric)
    (steady : c.name ∈ Smoothing.names → ∀ entries, Smoothing.smoothed scope c = .ok entries →
      Smoothing.Steady entries)
    (groups : ∀ callback template, Grouping.template scope c callback = .ok template → ∀ group : Grouping.Group,
      (∀ s ∈ group.2, s.Numeric) → ∀ found, (Grouping.evaluateGroup scope template group).outcome = .ok found →
        ∀ s ∈ found, s.Numeric) : ∀ s ∈ result, s.Numeric := by
  have first : ∀ e series, c.evaluated = [e] → (scope.evaluate e).outcome = .ok series → ∀ s ∈ series, s.Numeric :=
    fun e series only evaluated => arguments e (only ▸ List.mem_cons_self) series evaluated
  have alone := fun different => row_alone row listed different c.name named
  simp only [Builtin.table, List.mem_cons, List.not_mem_nil, or_false] at listed
  rcases listed with rfl | rfl | rfl | rfl | rfl | rfl
  · obtain ⟨combiner, lists, _, computed, _⟩ := combining_success scope c result ok
    exact combiner_numeric c _ result combiner computed
  · obtain ⟨_, series, _, _, _, computed, _⟩ :=
      computing_success aggregate_computes scope c (alone (by decide)) result ok
    exact aggregate_numeric c series result computed
  · obtain ⟨e, series, only, _, evaluated, computed, _⟩ :=
      computing_success rollup_computes scope c (alone (by decide)) result ok
    exact rollup_numeric c series result (first e series only evaluated) computed
  · obtain ⟨e, series, only, _, evaluated, computed, _⟩ :=
      computing_success threshold_computes scope c (alone (by decide)) result ok
    exact threshold_numeric c series result (first e series only evaluated) computed
  · obtain ⟨e, series, o, template, found, lists, only, evaluated, _, read, grouped, _, kept, rfl, _⟩ :=
      grouping_success scope c named result ok
    intro s member
    obtain ⟨list, collected, inside⟩ := List.mem_flatten.mp member
    obtain ⟨group, formed, outcome⟩ := Answer.mem_of_map_m _ found lists kept list collected
    have members : ∀ s ∈ group.2, s.Numeric := fun s there =>
      first e series only evaluated s (Grouping.groups_members c o series found grouped group formed s there)
    rcases Grouping.kept_or_nothing scope c _ list outcome with evaluated | rfl
    · exact groups o.callback template read group members list evaluated s inside
    · cases inside
  · obtain ⟨entries, smoothed, exactly⟩ := Smoothing.numeric_iff_steady scope c named result ok arguments
    exact exactly.mpr (steady named entries smoothed)

section

variable (ev : Evaluator) (builtin : ev.registry = Builtin.registry) (reads : ev.read = Target.read) (window : Window)

include builtin reads

theorem node_numeric (levels : Nat) :
    ∀ index e result, (∀ m ∈ e.sources, ∀ s ∈ index.get ⟨m, window⟩, s.Numeric) →
      Smoothing.Steady (ev.smoothedBelow window levels index e) →
        (ev.node window levels index e).outcome = .ok result → ∀ s ∈ result, s.Numeric := by
  -- A group is evaluated against an index of its own, so the induction is over all indexes.
  induction levels with
  | zero =>
      intro index e result _ _ impossible
      cases impossible
  | succ levels ih =>
      intro index e result numbers steady ok
      cases e with
      | metric name position =>
          cases ok
          exact numbers name List.mem_cons_self
      | number value => cases ok
      | string value => cases ok
      | boolean value => cases ok
      | call c =>
          obtain ⟨row, listed, named, ran, _⟩ := call_success ev builtin window levels index c result ok
          rw [Evaluator.smoothedBelow, Smoothing.steady_append, Smoothing.steady_flat_map] at steady
          obtain ⟨inside, here⟩ := steady
          refine run_numeric _ c row listed named result ran ?_ ?_ ?_
          · intro e member series evaluated
            have sources := call_sources c e (evaluated_mem c e member)
            exact ih index e series (fun m source => numbers m (sources m source)) (inside e member) evaluated
          · intro smoothing entries smoothed
            rw [if_pos smoothing, smoothed] at here
            exact here
          · intro callback template read group members found evaluated
            obtain ⟨call, there, shape, _⟩ :=
              group_callback ev builtin reads window levels index c callback template read group.1
            obtain ⟨series, answered, same⟩ := Answer.ok_of_and_then _ _ _ evaluated
            cases same
            change (ev.node window levels (.single ⟨group.1, window⟩ group.2)
              (template.rename Grouping.placeholder group.1)).outcome = .ok series at answered
            rw [there] at answered
            refine Grouping.labelled_numeric group.1 series (ih _ _ series ?_ ?_ answered)
            · intro m _ s looked
              rw [SeriesIndex.get_single] at looked
              split at looked
              · exact members s looked
              · cases looked
            · rw [smoothed_callback ev window levels _ call shape]
              exact nofun

theorem outermost_numeric (levels : Nat) (index : SeriesIndex) (c : Call Expr) (smoothing : c.name ∈ Smoothing.names)
    (result : List Series) (numbers : ∀ m ∈ (Expr.call c).sources, ∀ s ∈ index.get ⟨m, window⟩, s.Numeric)
    (inside : ∀ e ∈ c.evaluated, Smoothing.Steady (ev.smoothedBelow window levels index e))
    (ok : (ev.node window (levels + 1) index (.call c)).outcome = .ok result) :
    (∀ s ∈ result, s.Numeric) ↔ Smoothing.Steady (ev.smoothedBelow window (levels + 1) index (.call c)) := by
  obtain ⟨row, listed, named, ran, _⟩ := call_success ev builtin window levels index c result ok
  have same := Builtin.row_unique row (Smoothing.names, Smoothing.function) listed (by simp [Builtin.table]) c.name
    named smoothing
  subst same
  have arguments : ∀ e ∈ c.evaluated, ∀ series, (ev.node window levels index e).outcome = .ok series →
      ∀ s ∈ series, s.Numeric := by
    intro e member series evaluated
    have sources := call_sources c e (evaluated_mem c e member)
    exact node_numeric ev builtin reads window levels index e series (fun m source => numbers m (sources m source))
      (inside e member) evaluated
  obtain ⟨entries, smoothed, exactly⟩ := Smoothing.numeric_iff_steady _ c smoothing result ran arguments
  rw [Evaluator.smoothedBelow, Smoothing.steady_append, Smoothing.steady_flat_map, if_pos smoothing, smoothed]
  exact exactly.trans (and_iff_right inside).symm

end

/-- If the sources have no present NaN, a result has none either, unless a mean breaks in some smoothing
call on the way. And it does have one if the first mean to break is of the outermost call. -/
theorem results_numeric (settings : EvaluatorSettings) (e : Expr) (window : Window) (index : SeriesIndex)
    (numbers : ∀ m ∈ e.sources, ∀ s ∈ index.get ⟨m, window⟩, s.Numeric) (result : List Series)
    (evaluated : ((Builtin.evaluatorWith settings).evaluate e window index).outcome = .ok result) :
    (Smoothing.Steady ((Builtin.evaluatorWith settings).smoothed e window index) → ∀ s ∈ result, s.Numeric) ∧
    ∀ c, e = .call c → c.name ∈ Smoothing.names →
      (∀ inner ∈ c.evaluated, Smoothing.Steady
        ((Builtin.evaluatorWith settings).smoothedBelow window settings.maxDepth index inner)) →
      ((∀ s ∈ result, s.Numeric) ↔ Smoothing.Steady ((Builtin.evaluatorWith settings).smoothed e window index)) := by
  constructor
  · intro steady
    exact node_numeric (Builtin.evaluatorWith settings) rfl rfl window _ index e result numbers steady evaluated
  · rintro c rfl smoothing inside
    exact outermost_numeric (Builtin.evaluatorWith settings) rfl rfl window _ index c smoothing result numbers inside
      evaluated

def huge : List Series := [.ofValues "hosts.a" 0 1 [1e308, 4.0], .ofValues "hosts.b" 0 1 [1e308, 2.0]]

def smoothedTotal : Expr :=
  .call ⟨"ewma", [.call ⟨"sumSeries", [.metric "hosts.*" 15], [], "hosts.*", 5⟩, .number 0.5], [],
    "sumSeries(hosts.*),0.5", 0⟩

theorem smoothed_overflow_numeric :
    ((Builtin.evaluatorWith Settings.default.evaluator).evaluate smoothedTotal ⟨0, 2⟩
        (.single ⟨"hosts.*", ⟨0, 2⟩⟩ huge)).outcome =
          .ok [.ofValues "ewma(sumSeries(hosts.*),0.5)" 0 1 [Binary64.positiveInfinity, Binary64.positiveInfinity]] ∧
      (Series.ofValues "ewma(sumSeries(hosts.*),0.5)" 0 1
        [Binary64.positiveInfinity, Binary64.positiveInfinity]).Numeric ∧
      Smoothing.Steady ((Builtin.evaluatorWith Settings.default.evaluator).smoothed smoothedTotal ⟨0, 2⟩
        (.single ⟨"hosts.*", ⟨0, 2⟩⟩ huge)) := by
  have numbers : ∀ m ∈ smoothedTotal.sources, ∀ s ∈ (SeriesIndex.single ⟨"hosts.*", ⟨0, 2⟩⟩ huge).get ⟨m, ⟨0, 2⟩⟩,
      s.Numeric := by
    decide +kernel
  have outcome : ((Builtin.evaluatorWith Settings.default.evaluator).evaluate smoothedTotal ⟨0, 2⟩
      (.single ⟨"hosts.*", ⟨0, 2⟩⟩ huge)).outcome =
        .ok [.ofValues "ewma(sumSeries(hosts.*),0.5)" 0 1 [Binary64.positiveInfinity, Binary64.positiveInfinity]] := by
    decide +kernel
  obtain ⟨unbroken, exactly⟩ := results_numeric Settings.default.evaluator smoothedTotal ⟨0, 2⟩
    (.single ⟨"hosts.*", ⟨0, 2⟩⟩ huge) numbers _ outcome
  have numeric := unbroken (by decide +kernel)
  exact ⟨outcome, numeric _ List.mem_cons_self, (exactly _ rfl (by decide) (by decide +kernel)).mp numeric⟩

def swinging : List Series := [.ofValues "hosts.a" 0 1 [1e308, -1e308], .ofValues "hosts.b" 0 1 [1e308, -1e308]]

theorem overflow_smoothed_to_nan :
    (∀ s ∈ swinging, s.Numeric) ∧
      ((Builtin.evaluatorWith Settings.default.evaluator).evaluate smoothedTotal ⟨0, 2⟩
        (.single ⟨"hosts.*", ⟨0, 2⟩⟩ swinging)).outcome =
          .ok [.ofValues "ewma(sumSeries(hosts.*),0.5)" 0 1 [Binary64.positiveInfinity, Binary64.notANumber]] ∧
      ¬ (Series.ofValues "ewma(sumSeries(hosts.*),0.5)" 0 1
        [Binary64.positiveInfinity, Binary64.notANumber]).Numeric := by
  exact ⟨by decide +kernel, by decide +kernel, by decide +kernel⟩

end TargetEval
