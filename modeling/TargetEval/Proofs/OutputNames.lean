import TargetEval.Proofs.Callbacks
import TargetEval.Proofs.Shape
import TargetEval.Proofs.Unplaced

set_option autoImplicit false

namespace TargetEval

namespace Target

theorem identifier_spelled (text : String)
    (starts : (text.toList.head?.any fun c => c.isAlpha || c = '_') = true)
    (continues : (text.toList.tail.all fun c => c.isAlphanum || c = '_') = true) :
    ∃ name : Identifier, name.name = text := by
  cases spelled : text.toList with
  | nil => simp [spelled] at starts
  | cons first rest =>
      rw [spelled] at starts continues
      refine ⟨⟨first, rest, by simpa using starts, by simpa using continues⟩, ?_⟩
      exact String.toList_injective (by simp [Identifier.name, Identifier.chars, spelled])

theorem call_identifier (text : String) (c : Call Expr) (accepted : read text = .ok (.call c)) :
    ∃ name : Identifier, name.name = c.name := by
  obtain ⟨p, before, after, _, same⟩ := (read_iff text _).mp accepted
  cases p with
  | call name gap lead inside trail =>
      cases same
      exact ⟨name, rfl⟩
  | metric _ _ => cases same
  | number _ => cases same
  | string _ => cases same
  | boolean _ => cases same

theorem read_renamed (text : String) (c : Call Expr) (accepted : read text = .ok (.call c)) (name : Identifier) :
    ∃ again, read (c.renderedAs name.name) = .ok again ∧
      again.unplaced = (Expr.call { c with name := name.name }).unplaced := by
  obtain ⟨p, before, after, _, same⟩ := (read_iff text _).mp accepted
  cases p with
  | call written gap lead inside trail =>
      refine ⟨(Phrase.call name noSpace noSpace inside noSpace).tree 0, ?_, ?_⟩
      · have whole := read_past (fun _ isMetric => isMetric) (.call name noSpace noSpace inside noSpace) noSpace noSpace
        have chars : c.renderedAs name.name =
            String.ofList (Phrase.call name noSpace noSpace inside noSpace : Phrase IsMetric).chars := by
          cases same
          refine String.toList_injective ?_
          simp [Call.renderedAs, Identifier.name, Phrase.chars, noSpace]
        rw [chars]
        simpa [noSpace, byte_length_nil] using whole
      · rw [call_tree] at same
        cases same
        have arguments := inside.unplaced_arguments
          (0 + byteLength (name.chars ++ (noSpace.1 ++ '(' :: noSpace.1)))
          (byteLength before.1 + byteLength (written.chars ++ (gap.1 ++ '(' :: lead.1)))
        simp only [call_tree, Expr.unplaced, Expr.unplaced_each, Expr.unplaced_named, ← positional_unplaced,
          ← named_unplaced, arguments]
  | metric _ _ => cases same
  | number _ => cases same
  | string _ => cases same
  | boolean _ => cases same

end Target

theorem evaluate_target_read (ev : Evaluator) (text : String) (window : Window) (index : SeriesIndex) (e : Expr)
    (parsed : ev.read text = .ok e) : (ev.evaluateTarget text window index).outcome = (ev.evaluate e window index).outcome := by
  have lifted : ev.evaluateTarget text window index =
      (Answer.ofExcept (ev.read text)).andThen fun e => ev.evaluate e window index := rfl
  rw [lifted, parsed, Answer.and_then_outcome]
  rfl

section

variable (scope : Scope) (c : Call Expr)

theorem argument_lists_outcome :
    (scope.argumentLists c).outcome = c.arguments.mapM fun e => (scope.evaluate e).outcome := by
  unfold Scope.argumentLists
  split
  · exact Answer.all_of_outcome _ _
  · exact Answer.in_order_outcome _ _

theorem check_series_ok (name : String) (es : List Expr) (index : Nat) :
    Scope.checkSeries c name index es = .ok () ↔ ∀ e ∈ es, e.isSeries = true := by
  induction es generalizing index with
  | nil => simp [Scope.checkSeries]
  | cons e rest ih =>
      rw [Scope.checkSeries, List.forall_mem_cons]
      by_cases series : e.isSeries = true
      · rw [if_pos series, ih]
        simp [series]
      · rw [if_neg series]
        simp [series]

theorem all_series_ok (name : String) (xs : List Series) :
    (scope.allSeries c name).outcome = .ok xs ↔
      c.arguments ≠ [] ∧ (∀ e ∈ c.arguments, e.isSeries = true) ∧ xs ≠ [] ∧
        ∃ lists, (c.arguments.mapM fun e => (scope.evaluate e).outcome) = .ok lists ∧ lists.flatten = xs := by
  rw [all_series]
  constructor
  · intro ok
    obtain ⟨e, present, ok⟩ := Answer.ok_of_and_then _ _ _ ok
    obtain ⟨_, checked, ok⟩ := Answer.ok_of_and_then _ _ _ ok
    obtain ⟨lists, evaluated, ok⟩ := Answer.ok_of_and_then _ _ _ ok
    rw [argument_lists_outcome] at evaluated
    have first := argument_found c 0 name _ e present
    split at ok
    next => cases ok
    next occupied =>
      cases ok
      refine ⟨?_, (check_series_ok c name _ 0).mp checked, ?_, lists, evaluated, rfl⟩
      · intro none
        rw [none] at first
        cases first
      · exact fun empty => occupied (List.isEmpty_iff.mpr empty)
  · rintro ⟨given, series, occupied, lists, evaluated, rfl⟩
    have checked := (check_series_ok c name c.arguments 0).mpr series
    obtain ⟨e, rest, arguments⟩ := List.exists_cons_of_ne_nil given
    have present : c.argument 0 name .seriesList = .ok e := by rw [Call.argument, arguments, List.getElem?_cons_zero]
    have found : (lists.flatten.isEmpty) = false := by simpa using occupied
    simp only [present, checked, Answer.and_then_outcome, Answer.of_except_outcome, argument_lists_outcome, evaluated,
      Answer.ok_bind, found]
    rfl

end

theorem combiner_ok (scope : Scope) (c : Call Expr) (series : List Series) :
    (Combiner.function.run scope c).outcome = .ok series ↔
      ∃ combiner xs s, Combiner.ofName c.name = .ok combiner ∧ (scope.allSeries c "seriesLists").outcome = .ok xs ∧
        Series.combine (c.renderedAs (Combiner.outputName c.name)) xs combiner.reducer.reduce = .ok s ∧
        series = [s] := by
  rw [combiner_run]
  constructor
  · intro ok
    obtain ⟨combiner, named, ok⟩ := Answer.ok_of_and_then _ _ _ ok
    obtain ⟨xs, found, ok⟩ := Answer.ok_of_and_then _ _ _ ok
    cases combined : Series.combine (c.renderedAs (Combiner.outputName c.name)) xs combiner.reducer.reduce with
    | error e =>
        rw [Answer.of_except_outcome, Combiner.compute, combined] at ok
        cases ok
    | ok s =>
        rw [Answer.of_except_outcome, Combiner.compute, combined] at ok
        cases ok
        exact ⟨combiner, xs, s, named, found, combined, rfl⟩
  · rintro ⟨combiner, xs, s, named, found, combined, rfl⟩
    simp only [Answer.and_then_outcome, Answer.of_except_outcome, named, found, Answer.ok_bind, Combiner.compute, combined]
    rfl

theorem combiner_renamed (scope : Scope) (c : Call Expr) (name : String) (combiner other : Combiner)
    (named : Combiner.ofName c.name = .ok combiner) (renamed : Combiner.ofName name = .ok other)
    (reducer : combiner.reducer = other.reducer) (title : Combiner.outputName name = Combiner.outputName c.name)
    (series : List Series) (ok : (Combiner.function.run scope c).outcome = .ok series) :
    (Combiner.function.run scope { c with name }).outcome = .ok series := by
  obtain ⟨combiner', xs, s, again, found, combined, rfl⟩ := (combiner_ok scope c series).mp ok
  rw [named] at again
  cases again
  refine (combiner_ok scope _ _).mpr ⟨other, xs, s, renamed, ?_, ?_, rfl⟩
  · exact (all_series_ok scope _ _ xs).mpr ((all_series_ok scope c _ xs).mp found)
  · rw [← reducer]
    exact title ▸ combined

theorem output_name_combines : ∀ combiner ∈ Combiner.all, ∃ other ∈ Combiner.all,
    other.name = Combiner.outputName combiner.name ∧ combiner.reducer = other.reducer ∧
      Combiner.outputName other.name = other.name := by
  decide

theorem combined_name (name : String) (xs : List Series) (fold : List Float → Float) (s : Series)
    (combined : Series.combine name xs fold = .ok s) : s.name = name := by
  obtain ⟨_, _, _, rfl, _⟩ := Series.combine_spanning name xs fold s combined
  rfl

theorem evaluate_combiner (ev : Evaluator) (builtin : ev.registry = Builtin.registry) (window : Window)
    (index : SeriesIndex) (c : Call Expr) (combinator : c.name ∈ Combiner.names) :
    (ev.evaluate (.call c) window index).outcome =
      (Combiner.function.run (ev.scope window ev.settings.maxDepth index) c).outcome := by
  have row := Builtin.resolve_listed (Combiner.names, Combiner.function) (by simp [Builtin.table]) c.name combinator
    c.position
  rw [Evaluator.evaluate, node_call ev window _ index c _ (builtin ▸ row), Answer.followed_by_outcome]

theorem output_identifier (text : String) (c : Call Expr) (parsed : Target.read text = .ok (.call c)) :
    ∃ name : Target.Identifier, name.name = Combiner.outputName c.name := by
  by_cases short : c.name = "avg"
  · rw [Combiner.outputName, if_pos short]
    exact Target.identifier_spelled "averageSeries" rfl rfl
  · rw [Combiner.outputName, if_neg short]
    exact Target.call_identifier text c parsed

/-- The result of a combinator is one series, and its name as a target gives this series again. -/
theorem combination_repeats_by_name (settings : EvaluatorSettings) (window : Window) (index : SeriesIndex)
    (text : String) (c : Call Expr) (series : List Series) (parsed : Target.read text = .ok (.call c))
    (combinator : c.name ∈ Combiner.names)
    (ok : ((Builtin.evaluatorWith settings).evaluateTarget text window index).outcome = .ok series) :
    ∃ s, series = [s] ∧
      ((Builtin.evaluatorWith settings).evaluateTarget s.name window index).outcome = .ok [s] := by
  obtain ⟨combiner, listed, named⟩ := List.mem_map.mp combinator
  obtain ⟨other, further, title, reducer, final⟩ := output_name_combines combiner listed
  rw [named] at title
  rw [evaluate_target_read _ _ _ _ _ parsed, evaluate_combiner _ rfl _ _ c combinator] at ok
  obtain ⟨_, xs, s, _, found, combined, rfl⟩ := (combiner_ok _ c series).mp ok
  refine ⟨s, rfl, ?_⟩
  -- The name is the call under its output name, so it is read as such up to places.
  obtain ⟨name, spelled⟩ := output_identifier text c parsed
  obtain ⟨again, reread, same⟩ := Target.read_renamed text c parsed name
  rw [spelled] at reread same
  have renamed := combiner_renamed _ c other.name combiner other (named ▸ Grouping.of_name_combiner combiner listed)
    (Grouping.of_name_combiner other further) reducer (final.trans title) [s] ok
  rw [title] at renamed
  have written : Combiner.outputName c.name ∈ Combiner.names := title ▸ List.mem_map_of_mem further
  have direct := evaluate_combiner (Builtin.evaluatorWith settings) rfl window index
    { c with name := Combiner.outputName c.name } written
  have answers := evaluate_unplaced (Builtin.evaluatorWith settings) rfl window index _ _ same
  rw [combined_name _ _ _ s combined, evaluate_target_read _ _ _ _ _ reread]
  exact Answer.ok_of_unplaced _ _ answers.symm [s] (direct.trans renamed)

def spacedAverage : Call Expr :=
  { name := "avg"
    arguments := [.call ⟨"min", [.metric "hosts.*" 10], [], "hosts.*", 6⟩, .metric "hosts.*" 20]
    named := [("x", .string "),(")]
    argumentText := "min(hosts.*), hosts.*, x = '),('"
    position := 0 }

def averaged : Series :=
  .ofValues "averageSeries(min(hosts.*), hosts.*, x = '),(')" 0 1 [5.0 / 3.0, 8.0 / 3.0]

theorem spaced_average_repeats :
    Target.read "avg ( min(hosts.*), hosts.*, x = '),(' )" = .ok (.call spacedAverage) ∧
      spacedAverage.name ∈ Combiner.names ∧
      (Builtin.evaluator.evaluateTarget "avg ( min(hosts.*), hosts.*, x = '),(' )" ⟨0, 2⟩ crowded).outcome =
        .ok [averaged] ∧
      (Builtin.evaluator.evaluateTarget averaged.name ⟨0, 2⟩ crowded).outcome = .ok [averaged] := by
  have parsed : Target.read "avg ( min(hosts.*), hosts.*, x = '),(' )" = .ok (.call spacedAverage) := rfl
  have combinator : spacedAverage.name ∈ Combiner.names := by decide
  have ok : (Builtin.evaluator.evaluateTarget "avg ( min(hosts.*), hosts.*, x = '),(' )" ⟨0, 2⟩ crowded).outcome =
      .ok [averaged] := by
    decide +kernel
  obtain ⟨s, only, again⟩ := combination_repeats_by_name _ _ _ _ spacedAverage [averaged] parsed combinator ok
  cases only
  exact ⟨parsed, combinator, ok, again⟩

end TargetEval
