import TargetEval.Proofs.Depth
import TargetEval.Proofs.Sources

set_option autoImplicit false

namespace TargetEval

def LimitOr (limit : Nat) : AnswerRelation := fun _ low high =>
  low.outcome = .error (.recursionLimit (limit + 1) limit) ∨ low.outcome = high.outcome

theorem map_m_limit_or {α β : Type} (e : Error) (f g : α → Except Error β) (items : List α)
    (each : ∀ x ∈ items, f x = .error e ∨ f x = g x) :
    items.mapM f = .error e ∨ items.mapM f = items.mapM g := by
  induction items with
  | nil => exact .inr rfl
  | cons item rest ih =>
      obtain ⟨here, later⟩ := List.forall_mem_cons.mp each
      rw [List.mapM_cons, List.mapM_cons]
      rcases here with failed | same
      · exact .inl (by rw [failed, Answer.error_bind])
      · rw [← same]
        cases f item with
        | error other => exact .inr rfl
        | ok y =>
            simp only [Answer.ok_bind]
            rcases ih later with failed | same
            · exact .inl (by rw [failed, Answer.error_bind])
            · exact .inr (by rw [same])

theorem limit_or (limit : Nat) : Congruence (LimitOr limit) where
  own := fun _ _ _ => .inr rfl
  and_then := by
    intro α β a b f g first next
    unfold LimitOr
    rw [Answer.and_then_outcome, Answer.and_then_outcome]
    rcases first with failed | same
    · exact .inl (by rw [failed, Answer.error_bind])
    · rw [← same]
      cases outcome : a.outcome with
      | error e => exact .inr rfl
      | ok x => exact next x outcome
  all_of := by
    intro α β f g items each
    unfold LimitOr
    rw [Answer.all_of_outcome, Answer.all_of_outcome]
    exact map_m_limit_or _ _ _ items each
  recorded := by
    intro a b records name first
    unfold LimitOr
    rw [Answer.followed_by_outcome, Answer.followed_by_outcome]
    exact first

section

variable (scope : Scope) (c : Call Expr)

theorem argument_lists_found (lists : List (List Series)) (ok : (scope.argumentLists c).outcome = .ok lists) (e : Expr)
    (member : e ∈ c.arguments) : ∃ series, (scope.evaluate e).outcome = .ok series := by
  unfold Scope.argumentLists at ok
  split at ok
  · rw [Answer.all_of_outcome] at ok
    exact Answer.ok_of_map_m _ _ lists ok e member
  · rw [Answer.in_order_outcome] at ok
    exact Answer.ok_of_map_m _ _ lists ok e member

theorem series_argument_evaluated (name : String) (series : List Series)
    (ok : (scope.seriesArgument c 0 name).outcome = .ok series) :
    ∃ e, c.arguments[0]? = some e ∧ (scope.evaluate e).outcome = .ok series := by
  obtain ⟨e, given, evaluated⟩ := Answer.ok_of_and_then _ _ series ok
  exact ⟨e, (series_argument_found c 0 name e given).1, evaluated⟩

theorem all_series_evaluated (name : String) (series : List Series)
    (ok : (scope.allSeries c name).outcome = .ok series) :
    ∃ e found, c.arguments[0]? = some e ∧ (scope.evaluate e).outcome = .ok found := by
  rw [all_series] at ok
  obtain ⟨e, given, checked⟩ := Answer.ok_of_and_then _ _ _ ok
  obtain ⟨_, _, evaluated⟩ := Answer.ok_of_and_then _ _ _ checked
  obtain ⟨lists, collected, _⟩ := Answer.ok_of_and_then _ _ _ evaluated
  have first := argument_found c 0 _ _ e given
  obtain ⟨found, here⟩ := argument_lists_found scope c lists collected e (List.mem_of_getElem? first)
  exact ⟨e, found, first, here⟩

theorem computing_evaluated (f : Function) (compute : Call Expr → List Series → Except Error (List Series))
    (computes : f.Computes compute) (result : List Series) (ok : (f.run scope c).outcome = .ok result) :
    ∃ e found, c.arguments[0]? = some e ∧ (scope.evaluate e).outcome = .ok found := by
  rw [computes] at ok
  obtain ⟨series, found, _⟩ := Answer.ok_of_and_then _ _ result ok
  obtain ⟨e, first, evaluated⟩ := series_argument_evaluated scope c _ series found
  exact ⟨e, series, first, evaluated⟩

theorem builtin_evaluated (row : List String × Function) (listed : row ∈ Builtin.table) (result : List Series)
    (ok : (row.2.run scope c).outcome = .ok result) :
    ∃ e found, c.arguments[0]? = some e ∧ (scope.evaluate e).outcome = .ok found := by
  simp only [Builtin.table, List.mem_cons, List.not_mem_nil, or_false] at listed
  rcases listed with rfl | rfl | rfl | rfl | rfl | rfl
  · rw [combiner_run] at ok
    obtain ⟨_, _, combined⟩ := Answer.ok_of_and_then _ _ _ ok
    obtain ⟨series, found, _⟩ := Answer.ok_of_and_then _ _ _ combined
    exact all_series_evaluated scope c _ series found
  · exact computing_evaluated scope c _ _ aggregate_computes result ok
  · exact computing_evaluated scope c _ _ rollup_computes result ok
  · exact computing_evaluated scope c _ _ threshold_computes result ok
  · rw [grouping_run] at ok
    obtain ⟨series, found, _⟩ := Answer.ok_of_and_then _ _ _ ok
    obtain ⟨e, first, evaluated⟩ := series_argument_evaluated scope c _ series found
    exact ⟨e, series, first, evaluated⟩
  · exact computing_evaluated scope c _ _ smoothing_computes result ok

end

section

variable (ev : Evaluator) (builtin : ev.registry = Builtin.registry) (window : Window) (index : SeriesIndex)
  (c : Call Expr)

include builtin

theorem call_at_limit (result : List Series) : (ev.node window 1 index (.call c)).outcome ≠ .ok result := by
  intro ok
  rw [node_visit] at ok
  cases resolved : ev.registry.resolve c.name c.position with
  | error e =>
      rw [visit_unresolved ev _ _ _ _ c e resolved] at ok
      cases ok
  | ok f =>
      rw [visit_call ev _ _ _ _ c f resolved, Answer.followed_by_outcome] at ok
      rw [builtin] at resolved
      obtain ⟨row, listed, _, rfl⟩ := Builtin.resolve_row c.name c.position f resolved
      obtain ⟨_, _, _, beyond⟩ := builtin_evaluated _ c row listed result ok
      cases beyond

theorem first_found (depth levels : Nat) (name : String) (series : List Series)
    (found : ((ev.scopeOver window depth (ev.node window levels) index).seriesArgument c 0 name).outcome =
      .ok series) :
    (∃ more, levels = more + 2) ∨
      levels = 1 ∧ ∃ m position, c.arguments[0]? = some (.metric m position) ∧ series = index.get ⟨m, window⟩ := by
  obtain ⟨e, first, evaluated⟩ := series_argument_evaluated _ c name series found
  match levels, evaluated with
  | 0, beyond => cases beyond
  | more + 2, _ => exact .inl ⟨more, rfl⟩
  | 1, evaluated =>
      refine .inr ⟨rfl, ?_⟩
      cases e with
      | metric m position => exact ⟨m, position, first, (Except.ok.inj evaluated).symm⟩
      | call c => exact absurd evaluated (call_at_limit ev builtin window index c series)
      | number value => cases evaluated
      | string value => cases evaluated
      | boolean value => cases evaluated

theorem group_at_limit (depth : Nat) (callback : Grouping.IsCallback c) (g : Grouping.Group) (result : List Series) :
    (Grouping.evaluateGroup (ev.scopeOver window depth (ev.node window 1) index) (.call c) g).outcome ≠ .ok result := by
  intro ok
  obtain ⟨series, evaluated, _⟩ := Answer.ok_of_and_then _ _ result ok
  obtain ⟨renamed, there, _⟩ := Grouping.rename_callback c callback Grouping.placeholder g.1
  rw [there] at evaluated
  exact call_at_limit ev builtin window _ renamed series evaluated

theorem lenient_above_limit (reads : ev.read = Target.read) (lenient : ev.settings.lenientGrouping = true)
    (grouping : c.name ∈ Grouping.names) (result : List Series)
    (ok : (ev.node window 2 index (.call c)).outcome = .ok result) : result = [] := by
  have resolved := Builtin.resolve_listed (Grouping.names, Grouping.function) (by simp [Builtin.table, Grouping.names])
    c.name grouping c.position
  rw [node_visit, visit_call ev _ _ _ _ c _ (builtin ▸ resolved), Answer.followed_by_outcome, grouping_run] at ok
  obtain ⟨_, _, options⟩ := Answer.ok_of_and_then _ _ _ ok
  obtain ⟨o, _, template⟩ := Answer.ok_of_and_then _ _ _ options
  obtain ⟨e, read, grouped⟩ := Answer.ok_of_and_then _ _ _ template
  obtain ⟨groups, _, evaluated⟩ := Answer.ok_of_and_then _ _ _ grouped
  obtain ⟨results, kept, flat⟩ := Answer.ok_of_and_then _ _ _ evaluated
  obtain ⟨call, rfl, shape⟩ := Grouping.template_callback _ (by rw [← builtin]; rfl) reads c o.callback e read
  -- Callbacks are evaluated one level down, at the limit.
  have dropped : ∀ g, (Grouping.keepOrDrop (ev.scopeOver window (ev.settings.maxDepth - 1) (ev.node window 1) index) c
      (Grouping.evaluateGroup (ev.scopeOver window (ev.settings.maxDepth - 1) (ev.node window 1) index)
        (.call call) g)).outcome = .ok [] := by
    intro g
    rw [Grouping.keep_or_drop_outcome]
    cases answer : (Grouping.evaluateGroup _ (.call call) g).outcome with
    | error e => exact if_pos lenient
    | ok series => exact absurd answer (group_at_limit ev builtin window index call _ shape g series)
  rw [Answer.in_order_outcome, Answer.map_m_congr _ (fun _ => pure []) groups fun g _ => dropped g, List.mapM_pure] at kept
  cases kept
  cases flat
  simp

end

-- Whether a grouping call at a depth gathers the series of a metric that has some.
def Expr.groupsAt (found : String → Bool) : Nat → Expr → Bool
  | 0, .call c =>
      decide (c.name ∈ Grouping.names) &&
        match c.arguments[0]? with
        | some (Expr.metric name _) => found name
        | _ => false
  | depth + 1, .call c => c.evaluated.any (groupsAt found depth)
  | _, _ => false

theorem groups_at_first (found : String → Bool) (c : Call Expr) (grouping : c.name ∈ Grouping.names) (m : String)
    (position : Nat) (first : c.arguments[0]? = some (.metric m position)) :
    (Expr.call c).groupsAt found 0 = found m := by
  simp [Expr.groupsAt, grouping, first]

theorem groups_at_argument (found : String → Bool) (depth : Nat) (c : Call Expr)
    (none : (Expr.call c).groupsAt found (depth + 1) = false) (e : Expr) (member : e ∈ c.evaluated) :
    e.groupsAt found depth = false :=
  Bool.eq_false_of_not_eq_true (List.any_eq_false.mp none e member)

def SeriesIndex.matched (index : SeriesIndex) (window : Window) (m : String) : Bool := !(index.get ⟨m, window⟩).isEmpty

section

variable {left right : Evaluator} (same : SameButLimit left right) (reads : left.read = Target.read) (window : Window)

include same reads

theorem raised_node (more levels : Nat) :
    ∀ index e,
      (left.settings.lenientGrouping = true → ∀ depth, depth + 2 = levels →
        e.groupsAt (index.matched window) depth = false) →
      LimitOr left.settings.maxDepth _ (left.node window levels index e) (right.node window (levels + more) index e) := by
  have respects := limit_or left.settings.maxDepth
  induction levels with
  | zero => exact fun _ _ _ => .inl rfl
  | succ levels ih =>
      intro index e spared
      rw [Nat.add_right_comm, node_visit, node_visit]
      refine respects.visit same.toVariants window _ _ _ _ index e ?_
      rintro c rfl
      have arguments : ∀ e ∈ c.evaluated, LimitOr left.settings.maxDepth _ (left.node window levels index e)
          (right.node window (levels + more) index e) := by
        intro e member
        refine ih index e fun lenient depth above => ?_
        exact groups_at_argument _ depth c (spared lenient (depth + 1) (by omega)) e member
      refine
        { arguments := arguments
          lists := fun combines => respects.argument_lists same.lists fun e member => arguments e ?_
          template := fun callback => .inr (same.template ..)
          groups := ?_ }
      · rwa [Call.evaluated, if_pos combines]
      intro grouping series o e found given _ read grouped g member
      cases lenient : left.settings.lenientGrouping with
      | false =>
          have refuses := same.lenient.symm.trans lenient
          have answers := respects.group left right window (left.settings.maxDepth - levels)
            (right.settings.maxDepth - (levels + more)) _ _ index e g
            (ih _ _ fun impossible => absurd impossible (by simp [lenient]))
          rwa [Grouping.keep_or_drop_strict _ lenient, Grouping.keep_or_drop_strict _ refuses]
      | true =>
          rcases first_found left same.builtin window index c _ levels _ series given with
            ⟨rest, rfl⟩ | ⟨rfl, m, position, first, rfl⟩
          · rw [Nat.add_right_comm rest 2 more]
            refine .inr (congrArg Answer.outcome ?_)
            exact group_same same.toVariants reads same.lenient window _ _ _ _ index c o.callback e read
              (fun inner call callback =>
                callback_levels same.toVariants window rest (rest + more) inner call callback) g
          · have unmatched := groups_at_first _ c grouping m position first ▸ spared lenient 0 rfl
            have none : index.get ⟨m, window⟩ = [] := by
              simpa [SeriesIndex.matched] using unmatched
            rw [none] at grouped
            cases grouped
            cases member

end

/-- A higher limit gives the same result, and an outcome that it changes was a failure one level
below the lower limit; unless lenient grouping gathers series of a metric right above that limit. -/
theorem raised_limit_keeps_result (settings : EvaluatorSettings) (e : Expr) (window : Window) (index : SeriesIndex)
    (higher : Nat) (raised : settings.maxDepth ≤ higher)
    (spared : settings.lenientGrouping = true → ∀ depth, depth + 1 = settings.maxDepth →
      e.groupsAt (index.matched window) depth = false) :
    (∀ result, ((Builtin.evaluatorWith settings).evaluate e window index).outcome = .ok result →
      ((Builtin.evaluatorWith { settings with maxDepth := higher }).evaluate e window index).outcome = .ok result) ∧
    (((Builtin.evaluatorWith { settings with maxDepth := higher }).evaluate e window index).outcome ≠
        ((Builtin.evaluatorWith settings).evaluate e window index).outcome →
      ((Builtin.evaluatorWith settings).evaluate e window index).outcome =
        .error (.recursionLimit (settings.maxDepth + 1) settings.maxDepth)) := by
  have same : SameButLimit (Builtin.evaluatorWith settings) (Builtin.evaluatorWith { settings with maxDepth := higher }) :=
    ⟨⟨rfl, rfl, rfl, rfl⟩, rfl, rfl⟩
  have levels : settings.maxDepth + 1 + (higher - settings.maxDepth) = higher + 1 := by omega
  have outcomes := raised_node same rfl window (higher - settings.maxDepth) (settings.maxDepth + 1) index e
    fun lenient depth above => spared lenient depth (Nat.succ.inj above)
  rw [levels] at outcomes
  constructor
  · intro result ok
    rcases outcomes with failed | equal
    · cases failed.symm.trans ok
    · exact equal.symm.trans ok
  · intro changed
    rcases outcomes with failed | equal
    · exact failed
    · exact absurd equal.symm changed

theorem by_host_under_raised_limit :
    ((Builtin.evaluatorWith { Settings.default.evaluator with maxDepth := 64 }).evaluate byHost ⟨0, 2⟩
        crowded).outcome = .ok [hosts[0].renamed "a", hosts[1].renamed "b"] ∧
      ((Builtin.evaluatorWith { Settings.default.evaluator with maxDepth := 1, lenientGrouping := false }).evaluate
        byHost ⟨0, 2⟩ crowded).outcome = .error (.recursionLimit 2 1) := by
  have apart : ∀ depth, depth + 1 = 2 → byHost.groupsAt (crowded.matched ⟨0, 2⟩) depth = false := by
    rintro _ ⟨⟩
    decide +kernel
  constructor
  · refine (raised_limit_keeps_result { Settings.default.evaluator with maxDepth := 2 } byHost ⟨0, 2⟩ crowded 64
      (by decide) fun _ => apart).1 _ ?_
    decide +kernel
  · refine (raised_limit_keeps_result { Settings.default.evaluator with maxDepth := 1, lenientGrouping := false } byHost
      ⟨0, 2⟩ crowded 64 (by decide) nofun).2 ?_
    decide +kernel

-- Without that exception it would not hold: here the groups of both hosts are dropped at the limit.
theorem raised_limit_adds_groups :
    ¬ ∀ (settings : EvaluatorSettings) (e : Expr) (window : Window) (index : SeriesIndex) (higher : Nat)
      (result : List Series), settings.maxDepth ≤ higher →
      ((Builtin.evaluatorWith settings).evaluate e window index).outcome = .ok result →
      ((Builtin.evaluatorWith { settings with maxDepth := higher }).evaluate e window index).outcome = .ok result := by
  intro keeps
  have kept := keeps { Settings.default.evaluator with maxDepth := 1 } byHost ⟨0, 2⟩ crowded 2 [] (by decide)
    (by decide +kernel)
  exact absurd kept (by decide +kernel)

end TargetEval
