import TargetEval.Proofs.Builtins
import TargetEval.Proofs.Target.Display

set_option autoImplicit false

namespace TargetEval

def Error.unplaced : Error → Error
  | .unknownFunction name _ => .unknownFunction name 0
  | e => e

def Answer.unplaced {α : Type} (a : Answer α) : Answer α := ⟨a.outcome.mapError Error.unplaced, a.events⟩

namespace Answer

variable {α β : Type}

theorem and_then_unplaced (a : Answer α) (next : α → Answer β) :
    (a.andThen next).unplaced = a.unplaced.andThen fun x => (next x).unplaced := by
  obtain ⟨outcome, events⟩ := a
  cases outcome with
  | ok x => rfl
  | error e => rfl

theorem in_order_unplaced (f : α → Answer β) (items : List α) :
    (inOrder f items).unplaced = inOrder (fun x => (f x).unplaced) items := by
  induction items with
  | nil => rfl
  | cons item rest ih =>
      simp only [inOrder, and_then_unplaced, ih]
      rfl

theorem all_of_unplaced (f : α → Answer β) (items : List α) :
    (allOf f items).unplaced = allOf (fun x => (f x).unplaced) items := by
  have outcomes : ((items.map f).mapM outcome).mapError Error.unplaced =
      (items.map fun x => (f x).unplaced).mapM outcome := by
    induction items with
    | nil => rfl
    | cons item rest ih =>
        simp only [List.map_cons, List.mapM_cons, ← ih]
        cases first : (f item).outcome with
        | error e => simp [unplaced, first, Except.mapError]
        | ok x =>
            simp only [unplaced, first]
            cases (rest.map f).mapM outcome <;> rfl
  simp only [allOf, unplaced] at outcomes ⊢
  rw [outcomes, List.flatMap_map, List.flatMap_map]

theorem in_order_map {γ : Type} (f : β → Answer γ) (g : α → β) (items : List α) :
    inOrder f (items.map g) = inOrder (fun x => f (g x)) items := by
  induction items with
  | nil => rfl
  | cons item rest ih => rw [List.map_cons, inOrder, inOrder, ih]

theorem all_of_map {γ : Type} (f : β → Answer γ) (g : α → β) (items : List α) :
    allOf f (items.map g) = allOf (fun x => f (g x)) items := by
  simp only [allOf, List.map_map, Function.comp_def]

theorem followed_by_unplaced (a : Answer α) (records : Bool) (event : Event) :
    (a.followedBy records event).unplaced = a.unplaced.followedBy records event := by
  cases records with
  | false => rfl
  | true => rfl

theorem succeeded_unplaced (a : Answer α) : a.unplaced.succeeded = a.succeeded := by
  obtain ⟨outcome, events⟩ := a
  cases outcome with
  | ok x => rfl
  | error e => rfl

theorem ok_of_unplaced (a b : Answer α) (same : a.unplaced = b.unplaced) (x : α) (ok : a.outcome = .ok x) :
    b.outcome = .ok x := by
  obtain ⟨outcome, events⟩ := a
  obtain ⟨other, others⟩ := b
  cases ok
  cases other with
  | ok y => exact (congrArg outcome same).symm
  | error e => cases congrArg outcome same

end Answer

theorem ByName.find_unplaced (name : String) (entries : ByName Expr) :
    find? name (mapValues Expr.unplaced entries) = (find? name entries).map Expr.unplaced := by
  induction entries with
  | nil => rfl
  | cons entry rest ih =>
      by_cases hit : entry.1 = name
      · simp [mapValues, find?, hit]
      · simpa [mapValues, find?, hit] using ih

def Call.unplaced (c : Call Expr) : Call Expr :=
  { c with
    arguments := c.arguments.map Expr.unplaced
    named := ByName.mapValues Expr.unplaced c.named
    position := 0 }

namespace Expr

theorem call_unplaced (c : Call Expr) : (Expr.call c).unplaced = .call c.unplaced := by
  obtain ⟨name, arguments, named, argumentText, position⟩ := c
  rw [Expr.unplaced, Expr.unplaced_each, Expr.unplaced_named]
  rfl

theorem text_unplaced (e : Expr) : e.unplaced.text = e.text := by
  cases e with
  | call c =>
      rw [call_unplaced]
      rfl
  | metric _ _ => rfl
  | number _ => rfl
  | string _ => rfl
  | boolean _ => rfl

theorem is_series_unplaced (e : Expr) : e.unplaced.isSeries = e.isSeries := by
  cases e with
  | call c =>
      rw [call_unplaced]
      rfl
  | metric _ _ => rfl
  | number _ => rfl
  | string _ => rfl
  | boolean _ => rfl

end Expr

theorem text_of_unplaced (e other : Expr) (same : e.unplaced = other.unplaced) : e.text = other.text := by
  rw [← e.text_unplaced, same, other.text_unplaced]

theorem is_series_of_unplaced (e other : Expr) (same : e.unplaced = other.unplaced) : e.isSeries = other.isSeries := by
  rw [← e.is_series_unplaced, same, other.is_series_unplaced]

namespace Call

variable (c : Call Expr)

theorem unplaced_at (index : Nat) : c.unplaced.arguments[index]? = c.arguments[index]?.map Expr.unplaced :=
  List.getElem?_map

theorem argument_unplaced (index : Nat) (name : String) (expected : ArgumentType) :
    c.unplaced.argument index name expected = (c.argument index name expected).map Expr.unplaced := by
  unfold argument
  rw [unplaced_at]
  cases c.arguments[index]? with
  | none => rfl
  | some e => rfl

theorem named_or_at_unplaced (name : String) (index : Nat) :
    c.unplaced.named? name index = (c.named? name index).map Expr.unplaced := by
  unfold named?
  rw [unplaced_at, Option.map_or]
  exact congrArg (Option.or · _) (ByName.find_unplaced name c.named)

theorem is_given_unplaced (name : String) (index : Nat) : c.unplaced.isGiven name index = c.isGiven name index := by
  have named : ByName.contains name c.unplaced.named = ByName.contains name c.named := by
    change (ByName.find? _ (ByName.mapValues _ _)).isSome = (ByName.find? _ _).isSome
    rw [ByName.find_unplaced, Option.isSome_map]
  unfold isGiven
  rw [named, unplaced, List.length_map]

theorem series_argument_unplaced (index : Nat) (name : String) :
    c.unplaced.seriesArgument index name = (c.seriesArgument index name).map Expr.unplaced := by
  unfold seriesArgument
  rw [argument_unplaced]
  cases c.argument index name .seriesList with
  | error e => rfl
  | ok e =>
      change (if e.unplaced.isSeries then _ else _) = Except.map _ (if e.isSeries then _ else _)
      rw [Expr.is_series_unplaced]
      split
      · rfl
      · rfl

section

variable {α : Type}

theorem coerced_unplaced (index : Nat) (name : String) (expected : ArgumentType) (read : Expr → Except Error α)
    (literal : ∀ e, read e.unplaced = read e) :
    (c.unplaced.argument index name expected >>= read) = (c.argument index name expected >>= read) := by
  rw [argument_unplaced]
  cases c.argument index name expected with
  | error e => rfl
  | ok e => exact literal e

end

theorem float_unplaced (index : Nat) (name : String) :
    c.unplaced.floatArgument index name = c.floatArgument index name :=
  c.coerced_unplaced index name .float _ fun e => by cases e <;> rfl

theorem string_unplaced (index : Nat) (name : String) :
    c.unplaced.stringArgument index name = c.stringArgument index name :=
  c.coerced_unplaced index name .string _ fun e => by cases e <;> rfl

theorem interval_unplaced (index : Nat) (name : String) (defaultSign : Int) :
    c.unplaced.intervalArgument index name defaultSign = c.intervalArgument index name defaultSign :=
  c.coerced_unplaced index name .interval _ fun e => by cases e <;> rfl

theorem integer_of_unplaced (index : Nat) (name : String) (e : Expr) :
    c.unplaced.integerOf index name e.unplaced = c.integerOf index name e := by
  cases e <;> rfl

theorem integer_unplaced (index : Nat) (name : String) :
    c.unplaced.integerArgument index name = c.integerArgument index name :=
  c.coerced_unplaced index name .integer _ fun e => c.integer_of_unplaced index name e

theorem integers_of_unplaced (name : String) (es : List Expr) (index : Nat) :
    c.unplaced.integersOf name index (es.map Expr.unplaced) = c.integersOf name index es := by
  induction es generalizing index with
  | nil => rfl
  | cons e rest ih => rw [List.map_cons, integersOf, integersOf, integer_of_unplaced, ih]

theorem integers_unplaced (index : Nat) (name : String) :
    c.unplaced.integersFrom index name = c.integersFrom index name := by
  have rest : c.unplaced.arguments.drop index = (c.arguments.drop index).map Expr.unplaced := List.map_drop.symm
  unfold integersFrom
  rw [rest, integers_of_unplaced]
  exact c.coerced_unplaced index name .integer _ fun _ => rfl

theorem string_at_unplaced (index : Nat) : c.unplaced.stringAt? index = c.stringAt? index := by
  unfold stringAt?
  rw [unplaced_at]
  cases c.arguments[index]? with
  | none => rfl
  | some e => cases e <;> rfl

theorem string_or_unplaced (name : String) (index : Nat) (default : String) :
    c.unplaced.stringOr name index default = c.stringOr name index default := by
  unfold stringOr
  rw [named_or_at_unplaced]
  cases c.named? name index with
  | none => rfl
  | some e => cases e <;> rfl

theorem boolean_or_unplaced (name : String) (index : Nat) (default : Bool) :
    c.unplaced.booleanOr name index default = c.booleanOr name index default := by
  unfold booleanOr
  rw [named_or_at_unplaced]
  cases c.named? name index with
  | none => rfl
  | some e => cases e <;> rfl

theorem check_series_unplaced (name : String) (es : List Expr) (index : Nat) :
    Scope.checkSeries c.unplaced name index (es.map Expr.unplaced) = Scope.checkSeries c name index es := by
  induction es generalizing index with
  | nil => rfl
  | cons e rest ih =>
      rw [List.map_cons, Scope.checkSeries, Scope.checkSeries, Expr.is_series_unplaced, ih]
      rfl

end Call

section

variable (c : Call Expr) (series : List Series)

theorem aggregate_unplaced : Aggregate.compute c.unplaced series = Aggregate.compute c series := by
  have first : c.unplaced.arguments.head?.map Expr.text = c.arguments.head?.map Expr.text := by
    cases given : c.arguments with
    | nil => simp [Call.unplaced, given]
    | cons e rest => simp [Call.unplaced, given, Expr.text_unplaced]
  unfold Aggregate.compute
  rw [c.string_unplaced, first]
  rfl

theorem rollup_options_unplaced : Rollup.options c.unplaced = Rollup.options c := by
  unfold Rollup.options
  rw [c.interval_unplaced, c.string_or_unplaced, c.boolean_or_unplaced, c.string_at_unplaced, c.is_given_unplaced,
    c.is_given_unplaced]
  rfl

theorem rollup_unplaced : Rollup.compute c.unplaced series = Rollup.compute c series := by
  unfold Rollup.compute
  rw [rollup_options_unplaced]
  rfl

theorem threshold_unplaced : Threshold.compute c.unplaced series = Threshold.compute c series := by
  unfold Threshold.compute
  rw [c.string_unplaced, c.string_unplaced, c.float_unplaced]

theorem smoothing_unplaced : Smoothing.compute c.unplaced series = Smoothing.compute c series := by
  unfold Smoothing.compute Smoothing.weight
  rw [c.float_unplaced]
  rfl

theorem grouping_options_unplaced : Grouping.options c.unplaced = Grouping.options c := by
  unfold Grouping.options
  rw [c.integer_unplaced, c.string_or_unplaced, c.string_unplaced, c.integers_unplaced]
  rfl

end

def Scope.Overlooks (scope : Scope) : Prop :=
  ∀ index e, (scope.evaluateIn index e.unplaced).unplaced = (scope.evaluateIn index e).unplaced

section

variable {scope : Scope} (overlooks : scope.Overlooks) (c : Call Expr)

include overlooks

theorem series_argument_overlooks (index : Nat) (name : String) :
    (scope.seriesArgument c.unplaced index name).unplaced = (scope.seriesArgument c index name).unplaced := by
  rw [series_argument, series_argument, c.series_argument_unplaced]
  cases c.seriesArgument index name with
  | error e => rfl
  | ok e =>
      have here := overlooks scope.index e
      simp only [Answer.and_then_unplaced, Scope.evaluate]
      exact congrArg (Answer.andThen (Answer.done e)) (funext fun _ => here)

theorem argument_lists_overlooks : (scope.argumentLists c.unplaced).unplaced = (scope.argumentLists c).unplaced := by
  have each : ∀ e, (scope.evaluate e.unplaced).unplaced = (scope.evaluate e).unplaced := overlooks scope.index
  unfold Scope.argumentLists
  split
  · simp only [Answer.all_of_unplaced, Call.unplaced, Answer.all_of_map, each]
  · simp only [Answer.in_order_unplaced, Call.unplaced, Answer.in_order_map, each]

theorem all_series_overlooks (name : String) :
    (scope.allSeries c.unplaced name).unplaced = (scope.allSeries c name).unplaced := by
  have same := argument_lists_overlooks overlooks c
  have checked : Scope.checkSeries c.unplaced name 0 c.unplaced.arguments = Scope.checkSeries c name 0 c.arguments :=
    c.check_series_unplaced name c.arguments 0
  rw [all_series, all_series, checked, c.argument_unplaced]
  -- Of the first argument only its presence counts.
  cases c.argument 0 name .seriesList with
  | error e => rfl
  | ok e =>
      simp only [Answer.and_then_unplaced, same]
      rfl

theorem combiner_overlooks :
    (Combiner.function.run scope c.unplaced).unplaced = (Combiner.function.run scope c).unplaced := by
  simp only [combiner_run, Answer.and_then_unplaced, all_series_overlooks overlooks]
  rfl

theorem computing_overlooks {f : Function} {compute : Call Expr → List Series → Except Error (List Series)}
    (computes : f.Computes compute) (same : ∀ series, compute c.unplaced series = compute c series) :
    (f.run scope c.unplaced).unplaced = (f.run scope c).unplaced := by
  simp only [computes scope, Answer.and_then_unplaced, series_argument_overlooks overlooks, same]

theorem grouping_overlooks :
    (Grouping.function.run scope c.unplaced).unplaced = (Grouping.function.run scope c).unplaced := by
  have templates : ∀ callback, (Answer.ofExcept (Grouping.template scope c.unplaced callback)).unplaced =
      (Answer.ofExcept (Grouping.template scope c callback)).unplaced := by
    intro callback
    unfold Grouping.template Grouping.templateText
    split
    · rfl
    · split
      · rfl
      · rfl
  simp only [grouping_run, Answer.and_then_unplaced, series_argument_overlooks overlooks, grouping_options_unplaced,
    templates]
  rfl

theorem builtin_overlooks (row : List String × Function) (listed : row ∈ Builtin.table) :
    (row.2.run scope c.unplaced).unplaced = (row.2.run scope c).unplaced := by
  simp only [Builtin.table, List.mem_cons, List.not_mem_nil, or_false] at listed
  rcases listed with rfl | rfl | rfl | rfl | rfl | rfl
  · exact combiner_overlooks overlooks c
  · exact computing_overlooks overlooks c aggregate_computes (aggregate_unplaced c)
  · exact computing_overlooks overlooks c rollup_computes (rollup_unplaced c)
  · exact computing_overlooks overlooks c threshold_computes (threshold_unplaced c)
  · exact grouping_overlooks overlooks c
  · exact computing_overlooks overlooks c smoothing_computes (smoothing_unplaced c)

end

theorem node_unplaced (ev : Evaluator) (builtin : ev.registry = Builtin.registry) (window : Window) (levels : Nat) :
    ∀ (index : SeriesIndex) (e : Expr),
      (ev.node window levels index e.unplaced).unplaced = (ev.node window levels index e).unplaced := by
  induction levels with
  | zero => exact fun _ _ => rfl
  | succ levels ih =>
      intro index e
      cases e with
      | metric name position => rfl
      | number value => rfl
      | string value => rfl
      | boolean value => rfl
      | call c =>
          have overlooks : (ev.scope window levels index).Overlooks := ih
          rw [Expr.call_unplaced]
          cases found : ev.registry.bindings.find? c.name with
          | none =>
              have unknown : ∀ position, ev.registry.resolve c.name position = .error (.unknownFunction c.name position) :=
                fun position => by rw [Registry.resolve, found]
              rw [node_unresolved ev _ _ _ c _ (unknown _), node_unresolved ev _ _ _ c.unplaced _ (unknown _)]
              rfl
          | some f =>
              have resolved : ∀ position, ev.registry.resolve c.name position = .ok f :=
                fun position => by rw [Registry.resolve, found]
              have known := resolved c.position
              rw [builtin] at known
              obtain ⟨row, listed, _, rfl⟩ := Builtin.resolve_row c.name c.position f known
              have same := builtin_overlooks overlooks c row listed
              rw [node_call ev _ _ _ c _ (resolved _), node_call ev _ _ _ c.unplaced _ (resolved _),
                Answer.followed_by_unplaced, Answer.followed_by_unplaced, ← Answer.succeeded_unplaced, same,
                Answer.succeeded_unplaced]
              rfl

theorem evaluate_unplaced (ev : Evaluator) (builtin : ev.registry = Builtin.registry) (window : Window)
    (index : SeriesIndex) (e other : Expr) (same : e.unplaced = other.unplaced) :
    (ev.evaluate e window index).unplaced = (ev.evaluate other window index).unplaced := by
  have here := node_unplaced ev builtin window (ev.settings.maxDepth + 1) index e
  rw [same, node_unplaced ev builtin] at here
  exact here.symm

end TargetEval
