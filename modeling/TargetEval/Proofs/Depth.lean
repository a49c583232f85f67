import TargetEval.Proofs.Sources
import TargetEval.Proofs.Templates

set_option autoImplicit false

namespace TargetEval

mutual

def Expr.height : Expr → Nat
  | .call ⟨_, arguments, _, _, _⟩ => 1 + heightOf arguments
  | _ => 0

def heightOf : List Expr → Nat
  | [] => 0
  | e :: rest => max e.height (heightOf rest)

end

theorem height_of_mem (arguments : List Expr) (e : Expr) (member : e ∈ arguments) : e.height ≤ heightOf arguments := by
  induction arguments with
  | nil => cases member
  | cons head rest ih =>
      rcases List.mem_cons.mp member with rfl | later
      · exact Nat.le_max_left _ _
      · exact Nat.le_trans (ih later) (Nat.le_max_right _ _)

theorem height_argument (c : Call Expr) (e : Expr) (member : e ∈ c.arguments) : e.height < (Expr.call c).height := by
  have bound := height_of_mem c.arguments e member
  change e.height < 1 + heightOf c.arguments
  omega

theorem height_call (c : Call Expr) : 0 < (Expr.call c).height := by
  change 0 < 1 + heightOf c.arguments
  omega

namespace Evaluator

variable (ev : Evaluator) (window : Window)

def guard (_ : SeriesIndex) (_ : Expr) : Answer (List Series) :=
  .fail (.recursionLimit (ev.settings.maxDepth + 1) ev.settings.maxDepth)

def nodeOver (beyond : SeriesIndex → Expr → Answer (List Series)) : Nat → SeriesIndex → Expr → Answer (List Series)
  | 0 => beyond
  | levels + 1 => ev.visit window (ev.settings.maxDepth - levels) (nodeOver beyond levels)

theorem node_over_guard (levels : Nat) : ev.nodeOver window ev.guard levels = ev.node window levels := by
  induction levels with
  | zero => rfl
  | succ levels ih => rw [nodeOver, ih, node_succ]

-- Evaluation in which nodes beyond the limit answer as given, instead of failing. No function
-- discards what happens in an answer, so an answer of theirs with events of its own would show.
def evaluateOver (beyond : SeriesIndex → Expr → Answer (List Series)) (e : Expr) (index : SeriesIndex) :
    Answer (List Series) :=
  ev.nodeOver window beyond (ev.settings.maxDepth + 1) index e

theorem evaluate_over_guard (e : Expr) (index : SeriesIndex) :
    ev.evaluateOver window ev.guard e index = ev.evaluate e window index :=
  congrFun (congrFun (ev.node_over_guard window _) index) e

end Evaluator

structure SameButLimit (left right : Evaluator) : Prop extends Variants left right where
  lists : left.settings.parallelArguments = right.settings.parallelArguments
  lenient : left.settings.lenientGrouping = right.settings.lenientGrouping

section

variable {left right : Evaluator} (same : SameButLimit left right) (window : Window)
  (beyond above : SeriesIndex → Expr → Answer (List Series))

include same

theorem node_within (reads : left.read = Target.read) (levels : Nat) :
    ∀ others index e, e.height + 2 ≤ levels → e.height + 2 ≤ others →
      left.nodeOver window beyond levels index e = right.nodeOver window above others index e := by
  induction levels with
  | zero => exact fun _ _ _ enough => absurd enough (by omega)
  | succ levels ih =>
      intro others index e enough plenty
      obtain ⟨others, rfl⟩ : ∃ n, others = n + 1 := ⟨others - 1, by omega⟩
      refine equal_answers.visit same.toVariants window _ _ _ _ index e ?_
      rintro c rfl
      have arguments : ∀ e ∈ c.arguments,
          left.nodeOver window beyond levels index e = right.nodeOver window above others index e := by
        intro e member
        have lower := height_argument c e member
        exact ih others index e (by omega) (by omega)
      refine
        { arguments := fun e member => arguments e (evaluated_mem c e member)
          lists := fun _ => equal_answers.argument_lists same.lists arguments
          template := fun _ => congrArg Answer.ofExcept (same.template ..)
          groups := ?_ }
      intro _ _ o e _ _ _ given _ g _
      -- A call has at least height one, so two levels are left for callbacks.
      have positive := height_call c
      obtain ⟨levels, rfl⟩ : ∃ n, levels = n + 2 := ⟨levels - 2, by omega⟩
      obtain ⟨others, rfl⟩ : ∃ n, others = n + 2 := ⟨others - 2, by omega⟩
      exact group_same same.toVariants reads same.lenient window _ _ _ _ index c o.callback e given
        (fun inner call callback => callback_over_leaves same.toVariants window _ _ _ _ _ _ inner call callback) g

end

def LimitErrors (allowed : Nat → Nat → Prop) : AnswerRelation := fun _ a _ =>
  ∀ depth limit, a.outcome = .error (.recursionLimit depth limit) → allowed depth limit

theorem limit_errors (allowed : Nat → Nat → Prop) : Congruence (LimitErrors allowed) where
  own := fun _ _ shallow depth limit failed => absurd failed (shallow depth limit)
  and_then := by
    intro α β a b f g first next depth limit failed
    rcases Answer.error_of_and_then a f _ failed with here | ⟨x, ok, later⟩
    · exact first depth limit here
    · exact next x ok depth limit later
  all_of := by
    intro α β f g items each depth limit failed
    rw [Answer.all_of_outcome] at failed
    obtain ⟨x, member, same⟩ := Answer.error_of_map_m _ items _ failed
    exact each x member depth limit same
  recorded := by
    intro a b records name first depth limit failed
    rw [Answer.followed_by_outcome] at failed
    exact first depth limit failed

theorem keep_or_drop_limit (allowed : Nat → Nat → Prop) (left right : Scope) (c : Call Expr) (a b : Answer (List Series))
    (errors : LimitErrors allowed _ a b) :
    LimitErrors allowed _ (Grouping.keepOrDrop left c a) (Grouping.keepOrDrop right c b) := by
  intro depth limit failed
  rw [Grouping.keep_or_drop_outcome] at failed
  split at failed
  · cases failed
  · exact errors depth limit failed

section

variable (settings : EvaluatorSettings) (window : Window)

theorem node_limit_errors (beyond : SeriesIndex → Expr → Answer (List Series)) (allowed : Nat → Nat → Prop)
    (errors : ∀ index e depth limit, (beyond index e).outcome = .error (.recursionLimit depth limit) →
      allowed depth limit) (levels : Nat) :
    ∀ index e, LimitErrors allowed _ ((Builtin.evaluatorWith settings).nodeOver window beyond levels index e)
      ((Builtin.evaluatorWith settings).nodeOver window beyond levels index e) := by
  have variants : Variants (Builtin.evaluatorWith settings) (Builtin.evaluatorWith settings) := ⟨rfl, rfl, rfl, rfl⟩
  -- No built-in function makes such an error itself, so it comes from beyond the last level.
  induction levels with
  | zero => exact errors
  | succ levels ih =>
      intro index e
      refine (limit_errors allowed).visit variants window _ _ _ _ index e fun c _ =>
        { arguments := fun e _ => ih index e
          lists := fun _ => (limit_errors allowed).argument_lists rfl fun e _ => ih index e
          template := fun callback => (limit_errors allowed).own _ _ (template_shallow _ rfl c callback)
          groups := ?_ }
      intro _ _ _ e _ _ _ _ _ g _
      exact keep_or_drop_limit allowed _ _ c _ _ ((limit_errors allowed).group _ _ window _ _ _ _ index e g (ih _ _))

theorem evaluate_over_above (e : Expr) (index : SeriesIndex) (limit : Nat) (above : e.height + 1 ≤ settings.maxDepth)
    (higher : e.height + 1 ≤ limit) (beyond other : SeriesIndex → Expr → Answer (List Series)) :
    (Builtin.evaluatorWith { settings with maxDepth := limit }).evaluateOver window beyond e index =
      (Builtin.evaluatorWith settings).evaluateOver window other e index := by
  have same : SameButLimit (Builtin.evaluatorWith { settings with maxDepth := limit })
    (Builtin.evaluatorWith settings) := ⟨⟨rfl, rfl, rfl, rfl⟩, rfl, rfl⟩
  exact node_within same window beyond other rfl (limit + 1) (settings.maxDepth + 1) index e
    (Nat.succ_le_succ higher) (Nat.succ_le_succ above)

end

/-- A limit above the height of an expression is never reached: what nodes beyond it would answer
makes no difference, evaluation does not fail for the depth of nesting, and any other limit above
the height gives the same answer. At any limit, evaluation that fails for the depth of nesting
does so one level below the limit. -/
theorem limit_above_height (settings : EvaluatorSettings) (e : Expr) (window : Window) (index : SeriesIndex) :
    (e.height + 1 ≤ settings.maxDepth →
      (∀ beyond, (Builtin.evaluatorWith settings).evaluateOver window beyond e index =
        (Builtin.evaluatorWith settings).evaluate e window index) ∧
      (∀ depth limit, ((Builtin.evaluatorWith settings).evaluate e window index).outcome ≠
        .error (.recursionLimit depth limit)) ∧
      ∀ limit, e.height + 1 ≤ limit →
        (Builtin.evaluatorWith { settings with maxDepth := limit }).evaluate e window index =
          (Builtin.evaluatorWith settings).evaluate e window index) ∧
    ∀ depth limit, ((Builtin.evaluatorWith settings).evaluate e window index).outcome =
        .error (.recursionLimit depth limit) → limit = settings.maxDepth ∧ depth = limit + 1 := by
  constructor
  · intro above
    have free : ∀ beyond, (Builtin.evaluatorWith settings).evaluateOver window beyond e index =
        (Builtin.evaluatorWith settings).evaluate e window index := by
      intro beyond
      rw [← Evaluator.evaluate_over_guard]
      exact evaluate_over_above settings window e index settings.maxDepth above above beyond _
    refine ⟨free, ?_, ?_⟩
    · intro depth limit failed
      rw [← free fun _ _ => .done []] at failed
      exact node_limit_errors settings window (fun _ _ => .done []) (fun _ _ => False)
        (fun _ _ _ _ impossible => by cases impossible) _ index e depth limit failed
    · intro limit higher
      rw [← Evaluator.evaluate_over_guard, ← Evaluator.evaluate_over_guard]
      exact evaluate_over_above settings window e index limit above higher _ _
  · intro depth limit failed
    rw [← Evaluator.evaluate_over_guard] at failed
    refine node_limit_errors settings window _ (fun depth limit => limit = settings.maxDepth ∧ depth = limit + 1) ?_
      _ index e depth limit failed
    intro _ _ depth limit beyond
    cases beyond
    exact ⟨rfl, rfl⟩

theorem total_below_its_limit :
    total.height = 2 ∧
      (Builtin.evaluatorWith { Settings.default.evaluator with maxDepth := 3 }).evaluate total ⟨0, 2⟩ crowded =
        Builtin.evaluator.evaluate total ⟨0, 2⟩ crowded ∧
      (∀ depth limit, (Builtin.evaluator.evaluate total ⟨0, 2⟩ crowded).outcome ≠
        .error (.recursionLimit depth limit)) ∧
      ((Builtin.evaluatorWith { Settings.default.evaluator with maxDepth := 1 }).evaluate total ⟨0, 2⟩
        crowded).outcome = .error (.recursionLimit 2 1) := by
  obtain ⟨_, within, others⟩ := (limit_above_height Settings.default.evaluator total ⟨0, 2⟩ crowded).1 (by decide)
  refine ⟨by decide, others 3 (by decide), within, ?_⟩
  have failed : ∃ depth limit, ((Builtin.evaluatorWith { Settings.default.evaluator with maxDepth := 1 }).evaluate
      total ⟨0, 2⟩ crowded).outcome = .error (.recursionLimit depth limit) := ⟨2, 1, by decide +kernel⟩
  obtain ⟨depth, limit, same⟩ := failed
  obtain ⟨rfl, rfl⟩ := (limit_above_height { Settings.default.evaluator with maxDepth := 1 } total ⟨0, 2⟩ crowded).2
    depth limit same
  exact same

end TargetEval
