import TargetEval.Proofs.Congruence
import TargetEval.Proofs.Sources

set_option autoImplicit false

namespace TargetEval

def KeepsSuccess : AnswerRelation := fun _ strict lenient =>
  ∀ result, strict.outcome = .ok result → lenient = strict ∧ ∀ function, .dropped function ∉ strict.events

theorem keeps_success_own {α : Type} (a : Except Error α) : KeepsSuccess α (.ofExcept a) (.ofExcept a) :=
  fun _ _ => ⟨rfl, fun _ => List.not_mem_nil⟩

theorem keeps_success : Congruence KeepsSuccess where
  own := fun _ a _ => keeps_success_own a
  and_then := by
    intro α β a b f g first next result ok
    obtain ⟨x, here, later⟩ := Answer.ok_of_and_then a f result ok
    obtain ⟨rfl, kept⟩ := first x here
    obtain ⟨same, more⟩ := next x here result later
    rw [Answer.and_then_ok _ _ x here, Answer.and_then_ok _ _ x here, same]
    exact ⟨rfl, fun function => by simp [kept function, more function]⟩
  all_of := by
    intro α β f g items each results ok
    rw [Answer.all_of_outcome] at ok
    have all : ∀ x ∈ items, g x = f x ∧ ∀ function, .dropped function ∉ (f x).events := fun x member => by
      obtain ⟨y, done⟩ := Answer.ok_of_map_m _ items results ok x member
      exact each x member y done
    refine ⟨Answer.all_of_congr g f items fun x member => (all x member).1, fun function dropped => ?_⟩
    obtain ⟨_, listed, happened⟩ := List.mem_flatMap.mp dropped
    obtain ⟨x, member, rfl⟩ := List.mem_map.mp listed
    exact (all x member).2 function happened
  recorded := by
    intro a b records name first result ok
    rw [Answer.followed_by_outcome] at ok
    obtain ⟨rfl, kept⟩ := first result ok
    refine ⟨rfl, fun function => ?_⟩
    cases records with
    | false => exact kept function
    | true => simp [Answer.followedBy, kept function]

theorem keep_or_drop_keeps (strict lenient : Scope) (refuses : strict.settings.lenientGrouping = false) (c : Call Expr)
    (a b : Answer (List Series)) (keeps : KeepsSuccess _ a b) :
    KeepsSuccess _ (Grouping.keepOrDrop strict c a) (Grouping.keepOrDrop lenient c b) := by
  rw [Grouping.keep_or_drop_strict strict refuses]
  intro result ok
  obtain ⟨rfl, kept⟩ := keeps result ok
  have succeeded : b.succeeded = true := by rw [Answer.succeeded, ok]; rfl
  exact ⟨by simp [Grouping.keepOrDrop, succeeded], kept⟩

theorem strict_node (strict lenient : Evaluator) (variants : Variants strict lenient) (window : Window)
    (refuses : strict.settings.lenientGrouping = false)
    (lists : strict.settings.parallelArguments = lenient.settings.parallelArguments) (levels : Nat) :
    ∀ index e, KeepsSuccess _ (strict.node window levels index e) (lenient.node window levels index e) := by
  induction levels with
  | zero =>
      intro index e result impossible
      cases impossible
  | succ levels ih =>
      intro index e
      rw [node_visit, node_visit]
      refine keeps_success.visit variants window _ _ _ _ index e fun c _ =>
        { arguments := fun e _ => ih index e
          lists := fun _ => keeps_success.argument_lists lists fun e _ => ih index e
          template := fun callback => by
            rw [variants.template]
            exact keeps_success_own _
          groups := ?_ }
      intro _ series o e found _ _ _ _ group _
      exact keep_or_drop_keeps _ _ refuses c _ _ (keeps_success.group _ _ window _ _ _ _ index e group (ih _ _))

/-- If strict grouping gives a result, lenient grouping gives the same one, by the same events, and
drops no group. -/
theorem lenient_repeats_strict (ev : Evaluator) (builtin : ev.registry = Builtin.registry) (e : Expr) (window : Window)
    (index : SeriesIndex) (result : List Series)
    (succeeded : ((ev.under { ev.settings with lenientGrouping := false }).evaluate e window index).outcome =
      .ok result) :
    ((ev.under { ev.settings with lenientGrouping := true }).evaluate e window index).outcome = .ok result ∧
      (∀ function,
        .dropped function ∉ ((ev.under { ev.settings with lenientGrouping := true }).evaluate e window index).events) ∧
      (ev.under { ev.settings with lenientGrouping := true }).evaluate e window index =
        (ev.under { ev.settings with lenientGrouping := false }).evaluate e window index := by
  have variants := variants_under ev builtin { ev.settings with lenientGrouping := false }
    { ev.settings with lenientGrouping := true } rfl
  obtain ⟨same, kept⟩ := strict_node _ _ variants window rfl rfl _ index e result succeeded
  have agree : (ev.under { ev.settings with lenientGrouping := true }).evaluate e window index =
      (ev.under { ev.settings with lenientGrouping := false }).evaluate e window index := same
  rw [agree]
  exact ⟨succeeded, kept, rfl⟩

theorem total_strict_and_lenient :
    ((Builtin.evaluator.under { Builtin.evaluator.settings with lenientGrouping := true }).evaluate total ⟨0, 2⟩
        crowded).outcome = .ok [.ofValues "sumSeries(groupByNode(hosts.*, 1, 'sum'), hosts.*)" 0 1 [8.0, 12.0]] ∧
      .dropped "groupByNode" ∉ ((Builtin.evaluator.under
        { Builtin.evaluator.settings with lenientGrouping := true }).evaluate total ⟨0, 2⟩ crowded).events := by
  have strict : ((Builtin.evaluator.under { Builtin.evaluator.settings with lenientGrouping := false }).evaluate total
      ⟨0, 2⟩ crowded).outcome =
        .ok [.ofValues "sumSeries(groupByNode(hosts.*, 1, 'sum'), hosts.*)" 0 1 [8.0, 12.0]] := by
    decide +kernel
  obtain ⟨outcome, kept, _⟩ := lenient_repeats_strict Builtin.evaluator rfl total ⟨0, 2⟩ crowded _ strict
  exact ⟨outcome, kept "groupByNode"⟩

end TargetEval
