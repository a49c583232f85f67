import TargetEval.Proofs.OutputNames

set_option autoImplicit false

namespace TargetEval

namespace Target

theorem read_applied (text : String) (e : Expr) (accepted : read text = .ok e) (series : e.isSeries = true)
    (name : Identifier) (more : Further IsMetric) :
    ∃ x o, x.unplaced = e.unplaced ∧
      read (name.name ++ "(" ++ e.text ++ String.ofList more.chars ++ ")") =
        .ok (.call
          { name := name.name
            arguments := x :: more.values o
            named := ByName.ofList (more.entries o)
            argumentText := e.text ++ String.ofList more.chars
            position := 0 }) := by
  obtain ⟨p, before, after, _, rfl⟩ := (read_iff text e).mp accepted
  let whole : Phrase IsMetric := .call name noSpace noSpace (.items (.positional p.compact) more) noSpace
  let start := 0 + byteLength (name.chars ++ (noSpace.1 ++ '(' :: noSpace.1))
  refine ⟨p.compact.tree start, start + byteLength p.compact.chars, p.compact_tree start _, ?_⟩
  have reading := read_past (fun _ isMetric => isMetric) whole noSpace noSpace
  have applied : name.name ++ "(" ++ (p.tree (byteLength before.1)).text ++ String.ofList more.chars ++ ")" =
      String.ofList (noSpace.1 ++ (whole.chars ++ noSpace.1)) := by
    rw [p.text_tree _ series]
    refine String.toList_injective ?_
    simp [whole, Identifier.name, Phrase.chars, Inside.chars, Item.chars, noSpace]
  have inside : (p.tree (byteLength before.1)).text ++ String.ofList more.chars =
      String.ofList (p.compact.chars ++ more.chars) := by
    rw [p.text_tree _ series, String.ofList_append]
  rw [applied, reading, inside]
  rfl

theorem read_applied_alone (text : String) (e : Expr) (accepted : read text = .ok e) (series : e.isSeries = true)
    (name : Identifier) :
    ∃ x, x.unplaced = e.unplaced ∧
      read (name.name ++ "(" ++ e.text ++ ")") = .ok (.call ⟨name.name, [x], [], e.text, 0⟩) := by
  obtain ⟨x, o, same, reading⟩ := read_applied text e accepted series name .nothing
  exact ⟨x, same, by simpa [Further.chars, Further.values, Further.entries, ByName.ofList] using reading⟩

theorem read_applied_string (text : String) (e : Expr) (accepted : read text = .ok e) (series : e.isSeries = true)
    (name : Identifier) (f : String) (free : '\'' ∉ f.toList) :
    ∃ x, x.unplaced = e.unplaced ∧
      read (name.name ++ "(" ++ e.text ++ ",'" ++ f ++ "')") =
        .ok (.call ⟨name.name, [x, .string f], [], e.text ++ ",'" ++ f ++ "'", 0⟩) := by
  let more : Further IsMetric :=
    .next noSpace noSpace (.positional (.string ⟨'\'', f.toList, .inl rfl, free⟩)) .nothing
  have chars : String.ofList more.chars = ",'" ++ f ++ "'" :=
    String.toList_injective (by simp [more, Further.chars, Item.chars, Phrase.chars, Quotation.chars, noSpace])
  obtain ⟨x, o, same, reading⟩ := read_applied text e accepted series name more
  have values : more.values o = [.string f] := by
    simp [more, Further.values, Item.values, Phrase.tree]
  have entries : more.entries o = [] := by
    simp [more, Further.entries, Item.entries]
  have applied : name.name ++ "(" ++ e.text ++ ",'" ++ f ++ "')" =
      name.name ++ "(" ++ e.text ++ (",'" ++ f ++ "'") ++ ")" :=
    String.toList_injective (by simp)
  have inside : e.text ++ ",'" ++ f ++ "'" = e.text ++ (",'" ++ f ++ "'") := String.toList_injective (by simp)
  rw [chars, values, entries] at reading
  refine ⟨x, same, ?_⟩
  rw [applied, inside]
  exact reading

end Target

theorem Combiner.of_reducer (r : Reducer) (other : r ≠ .last) :
    ∃ combiner ∈ Combiner.all, combiner.name = r.name ++ "Series" ∧ combiner.reducer = r ∧
      Combiner.outputName combiner.name = combiner.name := by
  cases r with
  | last => exact absurd rfl other
  | _ => decide

theorem reducer_identifier (r : Reducer) : ∃ name : Target.Identifier, name.name = r.name ++ "Series" :=
  Target.identifier_spelled _ (by cases r <;> rfl) (by cases r <;> rfl)

theorem reducer_spelling : ∀ text ∈ Grouping.reducerNames, '\'' ∉ text.toList := by
  decide

section

variable (ev : Evaluator) (builtin : ev.registry = Builtin.registry) (window : Window) (index : SeriesIndex)

include builtin

theorem evaluate_aggregate (c : Call Expr) (named : c.name = "aggregate") (x : Expr) (first : c.arguments[0]? = some x)
    (series : x.isSeries = true) :
    (ev.evaluate (.call c) window index).outcome =
      (ev.node window ev.settings.maxDepth index x).outcome >>= Aggregate.compute c := by
  have row := Builtin.resolve_listed (["aggregate"], Aggregate.function) (by simp [Builtin.table]) c.name
    (named ▸ List.mem_cons_self) c.position
  have given := c.series_ok 0 "seriesList" x first series
  rw [Evaluator.evaluate, node_call ev window _ index c _ (builtin ▸ row), Answer.followed_by_outcome,
    aggregate_computes, series_argument, given]
  simp only [Answer.and_then_outcome, Answer.of_except_outcome, Answer.ok_bind]
  rfl

end

theorem aggregate_ok (c : Call Expr) (x : Expr) (f : String) (r : Reducer) (given : c.arguments = [x, .string f])
    (denotes : Reducer.ofName f = .ok r) (xs series : List Series) (ok : Aggregate.compute c xs = .ok series) :
    ∃ s, Series.combine (r.name ++ "Series(" ++ x.text ++ ")") xs r.reduce = .ok s ∧ xs ≠ [] ∧ series = [s] := by
  have func := (c.string_ok 1 "func" f).mpr (by rw [given]; rfl)
  simp only [Aggregate.compute, func, denotes, Answer.ok_bind, given] at ok
  split at ok
  next => cases ok
  next occupied =>
    cases combined : Series.combine (r.name ++ "Series(" ++ x.text ++ ")") xs r.reduce with
    | error e =>
        simp only [List.head?_cons, Option.map_some, Option.getD_some, combined, Answer.error_bind] at ok
        cases ok
    | ok s =>
        simp only [List.head?_cons, Option.map_some, Option.getD_some, combined, Answer.ok_bind] at ok
        cases ok
        exact ⟨s, rfl, fun empty => occupied (List.isEmpty_iff.mpr empty), rfl⟩

theorem Reducer.of_name_eq (text : String) (r : Reducer) (denotes : ofName text = .ok r) : ofName? text = some r := by
  unfold ofName at denotes
  split at denotes
  next found =>
    cases denotes
    exact found
  next => cases denotes

theorem all_series_of_one (scope : Scope) (c : Call Expr) (e : Expr) (only : c.arguments = [e])
    (series : e.isSeries = true) (xs : List Series) (occupied : xs ≠ []) (evaluated : (scope.evaluate e).outcome = .ok xs)
    (name : String) : (scope.allSeries c name).outcome = .ok xs := by
  refine (all_series_ok scope c name xs).mpr ⟨?_, ?_, occupied, [xs], ?_, by simp⟩
  · simp [only]
  · simpa [only] using series
  · rw [only, List.mapM_cons, evaluated]
    rfl

theorem last_unregistered : Builtin.registry.contains "lastSeries" = false := by
  decide +kernel

section

variable (ev : Evaluator) (builtin : ev.registry = Builtin.registry) (reads : ev.read = Target.read) (window : Window)
  (index : SeriesIndex) (text : String) (e : Expr) (parsed : Target.read text = .ok e) (stands : e.isSeries = true)

include builtin reads parsed stands

theorem aggregate_target_ok (f : String) (r : Reducer) (denotes : Reducer.ofName f = .ok r) (series : List Series)
    (ok : (ev.evaluateTarget ("aggregate(" ++ e.text ++ ",'" ++ f ++ "')") window index).outcome = .ok series) :
    ∃ xs s, (ev.node window ev.settings.maxDepth index e).outcome = .ok xs ∧ xs ≠ [] ∧
      Series.combine (r.name ++ "Series(" ++ e.text ++ ")") xs r.reduce = .ok s ∧ series = [s] := by
  have free := reducer_spelling f (Grouping.of_name_mem f r (Reducer.of_name_eq f r denotes))
  obtain ⟨name, spelled⟩ := Target.identifier_spelled "aggregate" rfl rfl
  obtain ⟨x, same, reading⟩ := Target.read_applied_string text e parsed stands name f free
  have opening : "aggregate" ++ "(" = "aggregate(" := rfl
  rw [spelled, opening, ← reads] at reading
  have series_x := (is_series_of_unplaced x e same).trans stands
  have answers := node_unplaced ev builtin window ev.settings.maxDepth index
  rw [evaluate_target_read _ _ _ _ _ reading, evaluate_aggregate _ builtin _ _ _ rfl x rfl series_x] at ok
  cases evaluated : (ev.node window ev.settings.maxDepth index x).outcome with
  | error failure =>
      rw [evaluated] at ok
      cases ok
  | ok xs =>
      rw [evaluated, Answer.ok_bind] at ok
      obtain ⟨s, combined, occupied, rfl⟩ := aggregate_ok _ x f r rfl denotes xs series ok
      rw [text_of_unplaced x e same] at combined
      refine ⟨xs, s, ?_, occupied, combined, rfl⟩
      exact Answer.ok_of_unplaced _ _ ((answers x).symm.trans (same ▸ answers e)) xs evaluated

theorem combinator_target (r : Reducer) (other : r ≠ .last) (xs : List Series) (occupied : xs ≠ [])
    (evaluated : (ev.node window ev.settings.maxDepth index e).outcome = .ok xs) (s : Series)
    (combined : Series.combine (r.name ++ "Series(" ++ e.text ++ ")") xs r.reduce = .ok s) :
    (ev.evaluateTarget (r.name ++ "Series(" ++ e.text ++ ")") window index).outcome = .ok [s] := by
  obtain ⟨combiner, listed, named, rfl, title⟩ := Combiner.of_reducer r other
  obtain ⟨name, spelled⟩ := reducer_identifier combiner.reducer
  obtain ⟨x, same, reading⟩ := Target.read_applied_alone text e parsed stands name
  have written : combiner.reducer.name ++ "Series(" ++ e.text ++ ")" = combiner.name ++ "(" ++ e.text ++ ")" := by
    rw [named]
    exact String.toList_injective (by simp)
  have answers := node_unplaced ev builtin window ev.settings.maxDepth index
  have evaluated_x : ((ev.scope window ev.settings.maxDepth index).evaluate x).outcome = .ok xs :=
    Answer.ok_of_unplaced _ _ ((answers e).symm.trans (same ▸ answers x)) xs evaluated
  rw [spelled, ← named, ← reads] at reading
  rw [written] at combined ⊢
  rw [evaluate_target_read _ _ _ _ _ reading, evaluate_combiner _ builtin _ _ _ (List.mem_map_of_mem listed)]
  refine (combiner_ok _ _ _).mpr ⟨combiner, xs, s, Grouping.of_name_combiner combiner listed, ?_, ?_, rfl⟩
  · exact all_series_of_one _ _ x rfl ((is_series_of_unplaced x e same).trans stands) xs occupied evaluated_x _
  · rw [title]
    exact combined

theorem last_target :
    (ev.evaluateTarget ("lastSeries(" ++ e.text ++ ")") window index).outcome =
      .error (.unknownFunction "lastSeries" 0) := by
  obtain ⟨name, spelled⟩ := Target.identifier_spelled "lastSeries" rfl rfl
  obtain ⟨x, _, reading⟩ := Target.read_applied_alone text e parsed stands name
  have opening : "lastSeries" ++ "(" = "lastSeries(" := rfl
  have unresolved : ev.registry.resolve "lastSeries" 0 = .error (.unknownFunction "lastSeries" 0) := by
    have unbound := last_unregistered
    unfold Registry.contains ByName.contains at unbound
    rw [Option.isSome_eq_false_iff, Option.isNone_iff_eq_none] at unbound
    rw [builtin, Registry.resolve, unbound]
  rw [spelled, opening, ← reads] at reading
  rw [evaluate_target_read _ _ _ _ _ reading, Evaluator.evaluate, node_unresolved ev _ _ _ _ _ unresolved]
  rfl

end

/-- `aggregate` gives one series named after the combinator of its reducer, and this name as a
target gives the series again. There is no combinator for the last value, so that name is unknown. -/
theorem aggregation_repeats_by_name (settings : EvaluatorSettings) (window : Window) (index : SeriesIndex)
    (text : String) (e : Expr) (parsed : Target.read text = .ok e) (stands : e.isSeries = true) (f : String)
    (r : Reducer) (denotes : Reducer.ofName f = .ok r) (series : List Series)
    (ok : ((Builtin.evaluatorWith settings).evaluateTarget ("aggregate(" ++ e.text ++ ",'" ++ f ++ "')") window
      index).outcome = .ok series) :
    ∃ s, series = [s] ∧ s.name = r.name ++ "Series(" ++ e.text ++ ")" ∧
      ((Builtin.evaluatorWith settings).evaluateTarget s.name window index).outcome =
        if r = .last then .error (.unknownFunction "lastSeries" 0) else .ok [s] := by
  obtain ⟨xs, s, evaluated, occupied, combined, rfl⟩ :=
    aggregate_target_ok _ rfl rfl window index text e parsed stands f r denotes series ok
  have name := combined_name _ _ _ s combined
  refine ⟨s, rfl, name, ?_⟩
  rw [name]
  by_cases last : r = .last
  · subst last
    exact last_target _ rfl rfl window index text e parsed stands
  · rw [if_neg last]
    exact combinator_target _ rfl rfl window index text e parsed stands r last xs occupied evaluated s combined

theorem average_of_total_repeats :
    Target.read "sum( hosts.* )" = .ok (.call ⟨"sum", [.metric "hosts.*" 5], [], "hosts.*", 0⟩) ∧
      Reducer.ofName "avg" = .ok .average ∧
      (Builtin.evaluator.evaluateTarget "aggregate(sum(hosts.*),'avg')" ⟨0, 2⟩ crowded).outcome =
        .ok [.ofValues "averageSeries(sum(hosts.*))" 0 1 [4.0, 6.0]] ∧
      (Builtin.evaluator.evaluateTarget "averageSeries(sum(hosts.*))" ⟨0, 2⟩ crowded).outcome =
        .ok [.ofValues "averageSeries(sum(hosts.*))" 0 1 [4.0, 6.0]] := by
  have parsed : Target.read "sum( hosts.* )" = .ok (.call ⟨"sum", [.metric "hosts.*" 5], [], "hosts.*", 0⟩) := rfl
  have denotes : Reducer.ofName "avg" = .ok .average := by decide
  have ok : (Builtin.evaluator.evaluateTarget "aggregate(sum(hosts.*),'avg')" ⟨0, 2⟩ crowded).outcome =
      .ok [.ofValues "averageSeries(sum(hosts.*))" 0 1 [4.0, 6.0]] := by
    decide +kernel
  obtain ⟨s, only, _, again⟩ := aggregation_repeats_by_name _ _ _ _ _ parsed rfl "avg" .average denotes _ ok
  cases only
  exact ⟨parsed, denotes, ok, again⟩

theorem last_name_unknown :
    (Builtin.evaluator.evaluateTarget "aggregate(hosts.*,'last')" ⟨0, 2⟩ crowded).outcome =
        .ok [.ofValues "lastSeries(hosts.*)" 0 1 [3.0, 4.0]] ∧
      (Builtin.evaluator.evaluateTarget "lastSeries(hosts.*)" ⟨0, 2⟩ crowded).outcome =
        .error (.unknownFunction "lastSeries" 0) := by
  decide +kernel

end TargetEval
