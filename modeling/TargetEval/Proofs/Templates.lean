import TargetEval.Proofs.Callbacks
import TargetEval.Proofs.Congruence

set_option autoImplicit false

namespace TargetEval

namespace Grouping

def IsCallback (c : Call Expr) : Prop :=
  (∃ name position, c.arguments = [.metric name position]) ∨
    c.name = "aggregate" ∧ ∃ name position reducer, c.arguments = [.metric name position, .string reducer]

theorem registered_row (callback : String) (registered : Builtin.registry.contains callback = true) :
    ∃ row ∈ Builtin.table, callback ∈ row.1 := by
  unfold Registry.contains ByName.contains at registered
  obtain ⟨f, found⟩ := Option.isSome_iff_exists.mp registered
  have resolved : Builtin.registry.resolve callback 0 = .ok f := by rw [Registry.resolve, found]
  obtain ⟨row, listed, named, _⟩ := Builtin.resolve_row callback 0 f resolved
  exact ⟨row, listed, named⟩

theorem registered_template (callback : String) (registered : Builtin.registry.contains callback = true) :
    Target.read (callback ++ "(" ++ placeholder ++ ")") =
      .ok (.call ⟨callback, [.metric placeholder (callback.utf8ByteSize + 1)], [], placeholder, 0⟩) := by
  obtain ⟨row, listed, named⟩ := registered_row callback registered
  simp only [Builtin.table, List.mem_cons, List.not_mem_nil, or_false] at listed
  rcases listed with rfl | rfl | rfl | rfl | rfl | rfl
  · exact combinator_template callback named
  -- The names of the other rows are few, and each text is read by computation.
  all_goals fin_cases named <;> rfl

theorem template_registered (scope : Scope) (registered : scope.isRegistered = Builtin.registry.contains)
    (reads : scope.read = Target.read) (c : Call Expr) (callback : String) (e : Expr)
    (given : template scope c callback = .ok e) :
    ∃ call, e = .call call ∧ IsCallback call ∧ Builtin.registry.contains call.name = true := by
  unfold template templateText at given
  rw [registered, reads] at given
  split at given
  next known =>
    rw [Answer.ok_bind, registered_template callback known] at given
    cases given
    exact ⟨_, rfl, .inl ⟨_, _, rfl⟩, known⟩
  next =>
    split at given
    next reducer =>
      obtain ⟨r, named⟩ := Option.isSome_iff_exists.mp reducer
      rw [Answer.ok_bind, aggregate_template callback (of_name_mem callback r named)] at given
      cases given
      exact ⟨_, rfl, .inr ⟨rfl, _, _, _, rfl⟩,
        Builtin.rows_registered (["aggregate"], Aggregate.function) (by simp [Builtin.table]) _ List.mem_cons_self⟩
    next => cases given

theorem template_callback (scope : Scope) (registered : scope.isRegistered = Builtin.registry.contains)
    (reads : scope.read = Target.read) (c : Call Expr) (callback : String) (e : Expr)
    (given : template scope c callback = .ok e) : ∃ call, e = .call call ∧ IsCallback call := by
  obtain ⟨call, same, shape, _⟩ := template_registered scope registered reads c callback e given
  exact ⟨call, same, shape⟩

theorem rename_callback (c : Call Expr) (callback : IsCallback c) (old new : String) :
    ∃ renamed, (Expr.call c).rename old new = .call renamed ∧ IsCallback renamed := by
  obtain ⟨name, arguments, named, argumentText, position⟩ := c
  rcases callback with ⟨metric, place, rfl⟩ | ⟨rfl, metric, place, reducer, rfl⟩
  · exact ⟨_, rfl, .inl ⟨_, _, rfl⟩⟩
  · exact ⟨_, rfl, .inr ⟨rfl, _, _, _, rfl⟩⟩

theorem rename_call (c : Call Expr) (old new : String) :
    ∃ renamed, (Expr.call c).rename old new = .call renamed ∧ renamed.name = c.name := ⟨_, rfl, rfl⟩

theorem callback_leaves (c : Call Expr) (callback : IsCallback c) (e : Expr) (member : e ∈ c.arguments) :
    ∀ call, e ≠ .call call := by
  rintro call rfl
  rcases callback with ⟨_, _, only⟩ | ⟨_, _, _, _, both⟩
  · simp [only] at member
  · simp [both] at member

theorem callback_no_options (c : Call Expr) (callback : IsCallback c) (grouping : c.name ∈ names) (o : Options) :
    options c ≠ .ok o := by
  obtain ⟨name, arguments, named, argumentText, position⟩ := c
  rcases callback with ⟨metric, place, rfl⟩ | ⟨rfl, _⟩
  · -- As a callback a grouping function lacks the arguments behind the series.
    intro given
    fin_cases grouping <;> cases given
  · simp [names] at grouping

end Grouping

def leafOutcome (window : Window) (index : SeriesIndex) : Expr → Except Error (List Series)
  | .metric name _ => .ok (index.get ⟨name, window⟩)
  | e => .error (Evaluator.literalError e)

theorem visit_leaf (ev : Evaluator) (window : Window) (depth : Nat)
    (below : SeriesIndex → Expr → Answer (List Series)) (index : SeriesIndex) (e : Expr)
    (leaf : ∀ c, e ≠ .call c) : ev.visit window depth below index e = .ofExcept (leafOutcome window index e) := by
  cases e with
  | call c => exact absurd rfl (leaf c)
  | metric name position => rfl
  | number value => rfl
  | string value => rfl
  | boolean value => rfl

theorem equal_answers : Congruence fun _ a b => a = b where
  own := fun _ _ _ => rfl
  and_then := by
    rintro α β a _ f g rfl next
    cases outcome : a.outcome with
    | error e => simp only [Answer.andThen, outcome]
    | ok x => rw [Answer.and_then_ok a f x outcome, Answer.and_then_ok a g x outcome, next x outcome]
  all_of := fun _ _ f g items same => Answer.all_of_congr f g items same
  recorded := fun a b records name same => by rw [same]

theorem quiet_lists (scope : Scope) (c : Call Expr) (outcome : Expr → Except Error (List Series))
    (quiet : ∀ e ∈ c.arguments, scope.evaluate e = .ofExcept (outcome e)) :
    scope.argumentLists c = .ofExcept (c.arguments.mapM outcome) := by
  unfold Scope.argumentLists
  split
  · exact Answer.all_of_quiet _ outcome _ quiet
  · exact Answer.in_order_quiet _ outcome _ quiet

theorem callback_visit {left right : Evaluator} (variants : Variants left right) (window : Window) (depth other : Nat)
    (below under : SeriesIndex → Expr → Answer (List Series)) (index : SeriesIndex) (c : Call Expr)
    (callback : Grouping.IsCallback c) (outcome : Expr → Except Error (List Series))
    (first : ∀ e ∈ c.arguments, below index e = .ofExcept (outcome e))
    (second : ∀ e ∈ c.arguments, under index e = .ofExcept (outcome e)) :
    left.visit window depth below index (.call c) = right.visit window other under index (.call c) := by
  have same : ∀ e ∈ c.arguments, below index e = under index e := fun e member =>
    (first e member).trans (second e member).symm
  have lists := quiet_lists (left.scopeOver window depth below index) c outcome first
  have others := quiet_lists (right.scopeOver window other under index) c outcome second
  refine equal_answers.visit variants window depth other below under index (.call c) ?_
  rintro _ ⟨⟩
  refine
    { arguments := fun e member => same e (evaluated_mem c e member)
      lists := fun _ => lists.trans others.symm
      template := fun _ => congrArg Answer.ofExcept (variants.template ..)
      groups := ?_ }
  intro grouping _ o _ _ _ chosen
  exact absurd chosen (Grouping.callback_no_options c callback grouping o)

theorem callback_over_leaves {left right : Evaluator} (variants : Variants left right) (window : Window)
    (depth other deeper lower : Nat) (below under : SeriesIndex → Expr → Answer (List Series)) (index : SeriesIndex)
    (c : Call Expr) (callback : Grouping.IsCallback c) :
    left.visit window depth (left.visit window deeper below) index (.call c) =
      right.visit window other (right.visit window lower under) index (.call c) := by
  have leaves := Grouping.callback_leaves c callback
  exact callback_visit variants window _ _ _ _ index c callback (leafOutcome window index)
    (fun e member => visit_leaf left window _ _ index e (leaves e member))
    (fun e member => visit_leaf right window _ _ index e (leaves e member))

theorem callback_levels {left right : Evaluator} (variants : Variants left right) (window : Window)
    (levels others : Nat) (index : SeriesIndex) (c : Call Expr) (callback : Grouping.IsCallback c) :
    left.node window (levels + 2) index (.call c) = right.node window (others + 2) index (.call c) := by
  rw [node_succ, node_succ, node_succ, node_succ]
  exact callback_over_leaves variants window _ _ _ _ _ _ index c callback

theorem group_callback (ev : Evaluator) (builtin : ev.registry = Builtin.registry) (reads : ev.read = Target.read)
    (window : Window) (levels : Nat) (index : SeriesIndex) (c : Call Expr) (callback : String) (template : Expr)
    (given : Grouping.template (ev.scope window levels index) c callback = .ok template) (key : String) :
    ∃ call, template.rename Grouping.placeholder key = .call call ∧ Grouping.IsCallback call ∧
      Builtin.registry.contains call.name = true := by
  have registered : (ev.scope window levels index).isRegistered = Builtin.registry.contains := by
    rw [← builtin]
    rfl
  obtain ⟨call, rfl, shape, known⟩ := Grouping.template_registered _ registered reads c callback template given
  obtain ⟨renamed, there, kept⟩ := Grouping.rename_callback call shape Grouping.placeholder key
  obtain ⟨_, again, same⟩ := Grouping.rename_call call Grouping.placeholder key
  cases there.symm.trans again
  exact ⟨renamed, there, kept, same ▸ known⟩

theorem group_same {left right : Evaluator} (variants : Variants left right) (reads : left.read = Target.read)
    (lenient : left.settings.lenientGrouping = right.settings.lenientGrouping) (window : Window) (depth other : Nat)
    (below under : SeriesIndex → Expr → Answer (List Series)) (index : SeriesIndex) (c : Call Expr) (callback : String)
    (e : Expr) (given : Grouping.template (left.scopeOver window depth below index) c callback = .ok e)
    (callbacks : ∀ inner call, Grouping.IsCallback call → below inner (.call call) = under inner (.call call))
    (g : Grouping.Group) :
    Grouping.keepOrDrop (left.scopeOver window depth below index) c
        (Grouping.evaluateGroup (left.scopeOver window depth below index) e g) =
      Grouping.keepOrDrop (right.scopeOver window other under index) c
        (Grouping.evaluateGroup (right.scopeOver window other under index) e g) := by
  have registered : left.registry.contains = Builtin.registry.contains := by rw [variants.builtin]
  obtain ⟨call, rfl, shape⟩ := Grouping.template_callback _ registered reads c callback e given
  obtain ⟨renamed, there, kept⟩ := Grouping.rename_callback call shape Grouping.placeholder g.1
  have evaluated := callbacks (.single ⟨g.1, window⟩ g.2) renamed kept
  rw [← there] at evaluated
  rw [equal_answers.group left right window depth other below under index (.call call) g evaluated]
  exact keep_or_drop_over left right lenient variants.records window depth other below under index c _

end TargetEval
