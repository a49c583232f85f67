import TargetEval.Proofs.Counters
import TargetEval.Proofs.Sources
import TargetEval.Proofs.Templates

set_option autoImplicit false

namespace TargetEval

def Agrees (tidy : Prop) : AnswerRelation := fun _ a b =>
  a.outcome = b.outcome ∧ (tidy → ∀ x, a.outcome = .ok x → a.events = b.events)

theorem agrees_refl (tidy : Prop) {α : Type} (a : Answer α) : Agrees tidy α a a := ⟨rfl, fun _ _ _ => rfl⟩

theorem agrees_trans (tidy : Prop) {α : Type} (a b c : Answer α) (first : Agrees tidy α a b)
    (second : Agrees tidy α b c) : Agrees tidy α a c := by
  refine ⟨first.1.trans second.1, fun clean x ok => ?_⟩
  exact (first.2 clean x ok).trans (second.2 clean x (first.1 ▸ ok))

theorem agrees (tidy : Prop) : Congruence (Agrees tidy) where
  own := fun _ a _ => agrees_refl tidy (.ofExcept a)
  and_then := by
    intro α β a b f g first next
    cases outcome : a.outcome with
    | error e =>
        have other := first.1.symm.trans outcome
        refine ⟨by simp only [Answer.and_then_outcome, outcome, other, Answer.error_bind], fun _ x ok => ?_⟩
        simp only [Answer.and_then_outcome, outcome, Answer.error_bind, reduceCtorEq] at ok
    | ok x =>
        obtain ⟨same, events⟩ := next x outcome
        rw [Answer.and_then_ok a f x outcome, Answer.and_then_ok b g x (first.1 ▸ outcome)]
        exact ⟨same, fun clean y ok => by
          change a.events ++ (f x).events = b.events ++ (g x).events
          rw [first.2 clean x outcome, events clean y ok]⟩
  all_of := by
    intro α β f g items each
    refine ⟨?_, fun clean results ok => ?_⟩
    · rw [Answer.all_of_outcome, Answer.all_of_outcome]
      exact Answer.map_m_congr _ _ items fun x member => (each x member).1
    · rw [Answer.all_of_outcome] at ok
      rw [Answer.all_of_events, Answer.all_of_events]
      refine List.flatMap_congr fun x member => ?_
      obtain ⟨y, done⟩ := Answer.ok_of_map_m _ items results ok x member
      exact (each x member).2 clean y done
  recorded := by
    intro a b records name first
    have same : a.succeeded = b.succeeded := by rw [Answer.succeeded, Answer.succeeded, first.1]
    refine ⟨by simp only [Answer.followed_by_outcome, first.1], fun clean x ok => ?_⟩
    rw [Answer.followed_by_outcome] at ok
    rw [same]
    cases records with
    | false => exact first.2 clean x ok
    | true => exact congrArg (· ++ [_]) (first.2 clean x ok)

theorem in_order_all_of (tidy : Prop) {α β : Type} (f : α → Answer β) (items : List α) :
    Agrees tidy (List β) (Answer.inOrder f items) (Answer.allOf f items) := by
  refine ⟨by rw [Answer.in_order_outcome, Answer.all_of_outcome], fun _ results ok => ?_⟩
  rw [Answer.in_order_events f items results ok, Answer.all_of_events]

section

variable {sequential parallel : Evaluator} (variants : Variants sequential parallel) (window : Window)
  (limit : sequential.settings.maxDepth = parallel.settings.maxDepth)

include variants limit

theorem callback_node (levels : Nat) (index : SeriesIndex) (c : Call Expr) (callback : Grouping.IsCallback c) :
    sequential.node window levels index (.call c) = parallel.node window levels index (.call c) := by
  match levels with
  | 0 => simp only [Evaluator.node, limit]
  | 1 =>
      rw [node_visit, node_visit]
      refine callback_visit variants window _ _ _ _ index c callback
        (fun _ => .error (.recursionLimit (parallel.settings.maxDepth + 1) parallel.settings.maxDepth)) ?_ ?_
      · intro e _
        rw [Evaluator.node, limit]
        rfl
      · intro e _
        rfl
  | levels + 2 => exact callback_levels variants window levels levels index c callback

theorem parallel_node (lenient : sequential.settings.lenientGrouping = parallel.settings.lenientGrouping)
    (inOrder : sequential.settings.parallelArguments = false) (atOnce : parallel.settings.parallelArguments = true)
    (levels : Nat) :
    ∀ index e, Agrees (sequential.read = Target.read) _ (sequential.node window levels index e)
      (parallel.node window levels index e) := by
  have respects := agrees (sequential.read = Target.read)
  induction levels with
  | zero =>
      intro index e
      rw [Evaluator.node, Evaluator.node, limit]
      exact agrees_refl _ _
  | succ levels ih =>
      intro index e
      rw [node_visit, node_visit]
      refine respects.visit variants window _ _ _ _ index e fun c _ =>
        { arguments := fun e _ => ih index e
          lists := fun _ => ?_
          template := fun callback => ?_
          groups := ?_ }
      · unfold Scope.argumentLists Evaluator.scopeOver
        rw [if_neg (by simp [inOrder]), if_pos atOnce]
        exact agrees_trans _ _ _ _ (respects.in_order _ _ _ fun e _ => ih index e) (in_order_all_of _ _ _)
      · rw [variants.template]
        exact agrees_refl _ _
      · intro _ _ o e _ _ _ given _ g _
        have answers := respects.group sequential parallel window (sequential.settings.maxDepth - levels)
          (parallel.settings.maxDepth - levels) _ _ index e g (ih _ _)
        refine ⟨?_, fun tidy _ _ => congrArg Answer.events ?_⟩
        · exact keep_or_drop_same_outcome _ _ lenient c _ _ answers.1
        · exact group_same variants tidy lenient window _ _ _ _ index c o.callback e given
            (fun inner call callback => callback_node variants window limit levels inner call callback) g

end

/-- Evaluating all arguments of a call at once gives the outcome of evaluating them in order, be it
a result or an error. If targets are read as written and there is a result, every counter of
evaluations and of dropped groups grows by the same amount, in whatever order events are recorded. -/
theorem parallel_repeats_sequential (ev : Evaluator) (builtin : ev.registry = Builtin.registry) (e : Expr)
    (window : Window) (index : SeriesIndex) :
    ((ev.under { ev.settings with parallelArguments := true }).evaluate e window index).outcome =
        ((ev.under { ev.settings with parallelArguments := false }).evaluate e window index).outcome ∧
      (ev.read = Target.read → ∀ result,
        ((ev.under { ev.settings with parallelArguments := false }).evaluate e window index).outcome = .ok result →
        ∀ (before : Telemetry) (recorded : List Event),
          recorded.Perm ((ev.under { ev.settings with parallelArguments := true }).evaluate e window index).events →
          ∀ function,
            (∀ succeeded, (before.recordAll recorded).evaluationsTotal function succeeded =
              (before.recordAll ((ev.under { ev.settings with parallelArguments := false }).evaluate e window
                index).events).evaluationsTotal function succeeded) ∧
            (before.recordAll recorded).droppedTotal function =
              (before.recordAll ((ev.under { ev.settings with parallelArguments := false }).evaluate e window
                index).events).droppedTotal function) := by
  have variants := variants_under ev builtin { ev.settings with parallelArguments := false }
    { ev.settings with parallelArguments := true } rfl
  obtain ⟨outcome, events⟩ := parallel_node variants window rfl rfl rfl rfl (ev.settings.maxDepth + 1) index e
  refine ⟨outcome.symm, fun reads result ok before recorded permuted function => ?_⟩
  have same := events reads result ok
  have counts : ∀ event, recorded.count event =
      ((ev.under { ev.settings with parallelArguments := false }).evaluate e window index).events.count event :=
    fun event => (permuted.count_eq event).trans (congrArg (List.count event) same.symm)
  constructor
  · intro succeeded
    rw [Telemetry.record_all_evaluations, Telemetry.record_all_evaluations, counts]
  · rw [Telemetry.record_all_dropped, Telemetry.record_all_dropped, counts]

theorem total_counted_in_any_order :
    ((Builtin.evaluator.under { Builtin.evaluator.settings with parallelArguments := true }).evaluate total ⟨0, 2⟩
        crowded).outcome = .ok [.ofValues "sumSeries(groupByNode(hosts.*, 1, 'sum'), hosts.*)" 0 1 [8.0, 12.0]] ∧
      ((Telemetry.start 0).recordAll ((Builtin.evaluator.under
        { Builtin.evaluator.settings with parallelArguments := true }).evaluate total ⟨0, 2⟩
          crowded).events.reverse).evaluationsTotal "sum" true = 2 := by
  obtain ⟨outcome, counters⟩ := parallel_repeats_sequential Builtin.evaluator rfl total ⟨0, 2⟩ crowded
  have sequential : ((Builtin.evaluator.under { Builtin.evaluator.settings with parallelArguments := false }).evaluate
      total ⟨0, 2⟩ crowded).outcome =
        .ok [.ofValues "sumSeries(groupByNode(hosts.*, 1, 'sum'), hosts.*)" 0 1 [8.0, 12.0]] := by
    decide +kernel
  refine ⟨outcome.trans sequential, ?_⟩
  rw [(counters rfl _ sequential (.start 0) _ (List.reverse_perm _) "sum").1 true]
  decide +kernel

end TargetEval
