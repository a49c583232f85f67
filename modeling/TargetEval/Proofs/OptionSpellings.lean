import TargetEval.Proofs.SummaryNames
import TargetEval.Proofs.Target.Renaming

set_option autoImplicit false

namespace TargetEval

namespace Target

/-- What the arguments give for a parameter with a name and a place. Of the arguments with its name
the last one decides, whatever stands at the place. -/
inductive Gives (all : List Argument) (name : String) (place : Nat) : Option Expr → Prop where
  | named (before after : List Argument) (value : Expr) (split : all = before ++ .named name value :: after)
      (last : ∀ e, .named name e ∉ after) : Gives all name place (some value)
  | positional (unnamed : ∀ e, .named name e ∉ all) : Gives all name place (positionalOf all)[place]?

/-- The texts of the calls of `summarize` with a series expression, an interval, a reducer and an
alignment, all without the places of their nodes. -/
inductive Spells (series interval : Expr) (func? fromStart? : Option Expr) : String → Prop where
  | call (name : Identifier) (called : name.name = "summarize") (before gap lead : Space) (inside : Inside IsMetric)
      (trail after : Space) (all : List Argument) (written : (inside.arguments 0).map Argument.unplaced = all)
      (first : (positionalOf all)[0]? = some series) (second : (positionalOf all)[1]? = some interval)
      (reducer : Gives all "func" 2 func?) (alignment : Gives all "alignToFrom" 3 fromStart?) :
      Spells series interval func? fromStart?
        (String.ofList (before.1 ++ ((Phrase.call name gap lead inside trail).chars ++ after.1)))

theorem mem_named_pairs (all : List Argument) (name : String) (e : Expr) :
    (name, e) ∈ namedPairs all ↔ .named name e ∈ all := by
  rw [namedPairs, List.mem_filterMap]
  constructor
  · rintro ⟨a, among, same⟩
    cases a with
    | positional e => cases same
    | named other e =>
        cases same
        exact among
  · exact fun among => ⟨_, among, rfl⟩

theorem last_value_none (entries : List (String × Expr)) (name : String) (unnamed : ∀ e, (name, e) ∉ entries) :
    ByName.lastValue name entries = none := by
  rw [ByName.lastValue, Option.map_eq_none_iff, List.find?_eq_none]
  rintro ⟨other, e⟩ among
  rw [decide_eq_true_eq]
  rintro rfl
  exact unnamed e (List.mem_reverse.mp among)

theorem last_value_found (before after : List (String × Expr)) (name : String) (value : Expr)
    (last : ∀ e, (name, e) ∉ after) : ByName.lastValue name (before ++ (name, value) :: after) = some value := by
  have later := last_value_none after name last
  rw [ByName.lastValue, Option.map_eq_none_iff] at later
  rw [ByName.lastValue, List.reverse_append, List.reverse_cons, List.append_assoc, List.find?_append, later, Option.none_or,
    List.singleton_append, List.find?_cons_of_pos (by simp)]
  rfl

theorem gives_found (all : List Argument) (name : String) (place : Nat) (value? : Option Expr)
    (gives : Gives all name place value?) :
    (ByName.find? name (namedOf all)).or (positionalOf all)[place]? = value? := by
  change (ByName.find? name (ByName.ofList (namedPairs all))).or _ = _
  rw [ByName.find_of_list]
  cases gives with
  | named before after value split last =>
      have pairs : namedPairs all = namedPairs before ++ (name, value) :: namedPairs after := by
        rw [split, namedPairs, List.filterMap_append]
        rfl
      rw [pairs, last_value_found _ _ name value fun e among => last e ((mem_named_pairs after name e).mp among),
        Option.some_or]
  | positional unnamed =>
      rw [last_value_none _ name fun e among => unnamed e ((mem_named_pairs all name e).mp among), Option.none_or]

structure Summarizes (c : Call Expr) (series interval : Expr) (func? fromStart? : Option Expr) : Prop where
  name : c.name = "summarize"
  series : c.arguments[0]? = some series
  interval : c.arguments[1]? = some interval
  func : c.named? "func" 2 = func?
  fromStart : c.named? "alignToFrom" 3 = fromStart?

theorem spelled_read (series interval : Expr) (func? fromStart? : Option Expr) (text : String)
    (spelled : Spells series interval func? fromStart? text) :
    ∃ c, read text = .ok (.call c) ∧ Summarizes c.unplaced series interval func? fromStart? := by
  obtain ⟨name, called, before, gap, lead, inside, trail, after, all, written, first, second, reducer, alignment⟩ := spelled
  have reading := read_past (fun _ isMetric => isMetric) (.call name gap lead inside trail) before after
  rw [call_tree] at reading
  generalize byteLength before.1 + byteLength (name.chars ++ (gap.1 ++ '(' :: lead.1)) = start at reading
  have arguments := (inside.unplaced_arguments start 0).trans written
  have positional := positional_unplaced (inside.arguments start)
  have named := named_unplaced (inside.arguments start)
  rw [arguments] at positional named
  rw [positional] at first second
  refine ⟨_, reading, called, first, second, ?_, ?_⟩
  · have found := gives_found all "func" 2 func? reducer
    rwa [positional, named] at found
  · have found := gives_found all "alignToFrom" 3 fromStart? alignment
    rwa [positional, named] at found

end Target

section

variable {c other : Call Expr} {series interval : Expr} {func? fromStart? : Option Expr}

theorem rollup_summarizes (scope : Scope) (here : Target.Summarizes c series interval func? fromStart?)
    (there : Target.Summarizes other series interval func? fromStart?) :
    Rollup.function.run scope c = Rollup.function.run scope other := by
  obtain ⟨name, first, second, func, fromStart⟩ := here
  obtain ⟨otherName, otherFirst, otherSecond, otherFunc, otherFromStart⟩ := there
  have failures : c.failure = other.failure := by
    funext index parameter expected problem
    rw [Call.failure, Call.failure, name, otherName]
  have coerced : Rollup.options c = Rollup.options other := by
    simp only [Rollup.options, Call.intervalArgument, Call.argument, Call.stringOr, Call.booleanOr, Call.stringAt?,
      Rollup.intervalFailure, Call.is_given_named, second, otherSecond, func, otherFunc, fromStart, otherFromStart, failures]
  have applied (o : Rollup.Options) : o.apply c = o.apply other := by
    funext s
    rw [rollup_apply, rollup_apply, Rollup.intervalFailure, Rollup.intervalFailure, failures]
  have evaluated : scope.seriesArgument c 0 "seriesList" = scope.seriesArgument other 0 "seriesList" := by
    simp only [Scope.seriesArgument, Call.seriesArgument, Call.argument, first, otherFirst, failures]
  rw [rollup_computes, rollup_computes, evaluated]
  simp only [Rollup.compute, coerced, applied]

end

def Rollup.title (input interval : String) (func? : Option String) (fromStart? : Option Bool) : String :=
  "summarize(" ++ input ++ ",'" ++ interval ++ "'" ++
    (match func?, fromStart? with
      | none, none => ""
      | some func, none => ",'" ++ func ++ "'"
      | _, some fromStart => ",'" ++ func?.getD "sum" ++ "'," ++ (if fromStart then "true" else "false")) ++ ")"

def Rollup.RolledUp (interval : String) (func? : Option String) (fromStart? : Option Bool) (inputs outputs : List Series) : Prop :=
  ∃ width r, Interval.read interval 1 = .ok width ∧ 0 < width ∧ Reducer.ofName (func?.getD "sum") = .ok r ∧
    List.Forall₂ (fun input output =>
      input.summarize (title input.name interval func? fromStart?) width r (fromStart?.getD false) = .ok output) inputs outputs

theorem rollup_title (o : Rollup.Options) (input : String) (func? : Option String) (fromStart? : Option Bool)
    (func : o.func = func?.getD "sum") (funcGiven : o.funcGiven = func?.isSome)
    (fromStart : o.fromStart = fromStart?.getD false) (fromStartGiven : o.fromStartGiven = fromStart?.isSome) :
    o.outputName input = Rollup.title input o.interval func? fromStart? := by
  rw [Rollup.output_name_text, Rollup.Options.writtenText, func, funcGiven, fromStart, fromStartGiven]
  refine String.toList_injective ?_
  cases func? with
  | none =>
      cases fromStart? with
      | none => simp [Rollup.title]
      | some start => cases start <;> simp [Rollup.title]
  | some func =>
      cases fromStart? with
      | none => simp [Rollup.title]
      | some start => cases start <;> simp [Rollup.title]

theorem summary_options (c : Call Expr) (series : Expr) (interval : String) (func? : Option String) (fromStart? : Option Bool)
    (here : Target.Summarizes c series (.string interval) (func?.map .string) (fromStart?.map .boolean)) (o : Rollup.Options) :
    Rollup.options c = .ok o ↔
      Interval.read interval 1 = .ok o.width ∧ 0 < o.width ∧ Reducer.ofName (func?.getD "sum") = .ok o.reducer ∧
        o.interval = interval ∧ o.func = func?.getD "sum" ∧ o.funcGiven = func?.isSome ∧
        o.fromStart = fromStart?.getD false ∧ o.fromStartGiven = fromStart?.isSome := by
  rw [Rollup.options_ok, here.interval, here.func, here.fromStart, Option.getD_map, Option.getD_map, Option.isSome_map,
    Option.isSome_map]
  simp only [Option.some.injEq, Expr.string.injEq, Expr.boolean.injEq]
  constructor
  · rintro ⟨rfl, read, wide, func, denotes, fromStart, funcGiven, fromStartGiven⟩
    exact ⟨read, wide, func ▸ denotes, rfl, func.symm, funcGiven, fromStart.symm, fromStartGiven⟩
  · rintro ⟨read, wide, denotes, rfl, func, funcGiven, fromStart, fromStartGiven⟩
    exact ⟨rfl, read, wide, func.symm, func ▸ denotes, fromStart.symm, funcGiven, fromStartGiven⟩

theorem rollup_compute_ok (c : Call Expr) (series : Expr) (interval : String) (func? : Option String) (fromStart? : Option Bool)
    (here : Target.Summarizes c series (.string interval) (func?.map .string) (fromStart?.map .boolean))
    (inputs outputs : List Series) :
    Rollup.compute c inputs = .ok outputs ↔ Rollup.RolledUp interval func? fromStart? inputs outputs := by
  have coerced := summary_options c series interval func? fromStart? here
  constructor
  · intro ok
    obtain ⟨o, found, applied⟩ := Answer.ok_of_bind _ _ _ ok
    obtain ⟨width, wide, denotes, rfl, func, funcGiven, fromStart, fromStartGiven⟩ := (coerced o).mp found
    refine ⟨o.width, o.reducer, width, wide, denotes, (Answer.each_of_map_m _ _ _ applied).imp fun input output rolled => ?_⟩
    obtain ⟨name, summarized⟩ := Rollup.applied o c input output rolled
    rwa [name, rollup_title o _ _ _ func funcGiven fromStart fromStartGiven, fromStart] at summarized
  · rintro ⟨width, r, read, wide, denotes, each⟩
    let o : Rollup.Options :=
      { width, interval, reducer := r, func := func?.getD "sum", funcGiven := func?.isSome
        fromStart := fromStart?.getD false, fromStartGiven := fromStart?.isSome }
    have found : Rollup.options c = .ok o := (coerced o).mpr ⟨read, wide, denotes, rfl, rfl, rfl, rfl, rfl⟩
    rw [Rollup.compute, found, Answer.ok_bind]
    refine Answer.map_m_of_each _ (each.imp fun input output rolled => ?_)
    rw [rollup_apply, rollup_title o input.name func? fromStart? rfl rfl rfl rfl, rolled]
    rfl

theorem first_series_ok (ev : Evaluator) (window : Window) (levels : Nat) (index : SeriesIndex) (c : Call Expr) (e : Expr)
    (first : c.arguments[0]? = some e) (inputs : List Series) :
    ((ev.scope window levels index).seriesArgument c 0 "seriesList").outcome = .ok inputs ↔
      (ev.node window levels index e).outcome = .ok inputs := by
  rw [series_argument, Answer.and_then_outcome, Answer.of_except_outcome]
  cases stands : e.isSeries with
  | true =>
      rw [c.series_ok 0 "seriesList" e first stands, Answer.ok_bind]
      rfl
  | false =>
      have refused : ∃ failure, c.seriesArgument 0 "seriesList" = .error failure := by
        rw [Call.seriesArgument, Call.argument, first, Answer.ok_bind, stands]
        exact ⟨_, rfl⟩
      obtain ⟨failure, refused⟩ := refused
      rw [refused]
      refine iff_of_false (fun ok => by cases ok) fun ok => ?_
      cases levels with
      | zero => cases ok
      | succ levels =>
          cases e with
          | metric name position => cases stands
          | call c => cases stands
          | number value => cases ok
          | string value => cases ok
          | boolean value => cases ok

section

variable (ev : Evaluator) (builtin : ev.registry = Builtin.registry) (reads : ev.read = Target.read) (window : Window)
  (index : SeriesIndex) (series interval : Expr) (func? fromStart? : Option Expr)

include builtin reads

theorem spelled_answer (text : String) (spelled : Target.Spells series interval func? fromStart? text) :
    ∃ c, Target.Summarizes c series interval func? fromStart? ∧
      (ev.evaluateTarget text window index).unplaced =
        ((Rollup.function.run (ev.scope window ev.settings.maxDepth index) c).followedBy ev.settings.recordsMetrics
          (.evaluated "summarize" (Rollup.function.run (ev.scope window ev.settings.maxDepth index) c).succeeded)).unplaced := by
  obtain ⟨c, reading, here⟩ := Target.spelled_read series interval func? fromStart? text spelled
  have answer : ev.evaluateTarget text window index = ev.evaluate (.call c) window index := by
    have lifted : ev.evaluateTarget text window index =
        (Answer.ofExcept (ev.read text)).andThen fun e => ev.evaluate e window index := rfl
    rw [lifted, reads, reading]
    rfl
  have row := Builtin.resolve_listed (["summarize"], Rollup.function) (by simp [Builtin.table]) c.unplaced.name
    (here.name ▸ List.mem_cons_self) c.unplaced.position
  refine ⟨c.unplaced, here, ?_⟩
  rw [answer, Evaluator.evaluate, ← node_unplaced ev builtin, Expr.call_unplaced,
    node_call ev window _ index _ _ (builtin ▸ row), here.name]

end

/-- The spellings of a roll up all have one answer, but for the place that an error names. Given an
interval, a reducer and an alignment of the right kinds, or less, it has exactly the inputs rolled up
under these options, each under the title that names them. -/
theorem spellings_agree (settings : EvaluatorSettings) (window : Window) (index : SeriesIndex) (series interval : Expr)
    (func? fromStart? : Option Expr) (text : String) (spelled : Target.Spells series interval func? fromStart? text) :
    (∀ other, Target.Spells series interval func? fromStart? other →
        ((Builtin.evaluatorWith settings).evaluateTarget other window index).unplaced =
          ((Builtin.evaluatorWith settings).evaluateTarget text window index).unplaced) ∧
      ∀ bucket name? flag?, interval = .string bucket → func? = name?.map .string → fromStart? = flag?.map .boolean →
        ∀ outputs, ((Builtin.evaluatorWith settings).evaluateTarget text window index).outcome = .ok outputs ↔
          ∃ inputs, ((Builtin.evaluatorWith settings).node window settings.maxDepth index series).outcome = .ok inputs ∧
            Rollup.RolledUp bucket name? flag? inputs outputs := by
  obtain ⟨c, here, answer⟩ := spelled_answer (Builtin.evaluatorWith settings) rfl rfl window index series interval func?
    fromStart? text spelled
  refine ⟨fun other again => ?_, ?_⟩
  · obtain ⟨d, there, same⟩ := spelled_answer (Builtin.evaluatorWith settings) rfl rfl window index series interval func?
      fromStart? other again
    rw [answer, same, rollup_summarizes _ here there]
  · rintro bucket name? flag? rfl rfl rfl outputs
    have computed : ((Builtin.evaluatorWith settings).evaluateTarget text window index).outcome = .ok outputs ↔
        (Rollup.function.run ((Builtin.evaluatorWith settings).scope window settings.maxDepth index) c).outcome = .ok outputs := by
      have there := Answer.ok_of_unplaced _ _ answer outputs
      have back := Answer.ok_of_unplaced _ _ answer.symm outputs
      rw [Answer.followed_by_outcome] at there back
      exact ⟨there, back⟩
    rw [computed, rollup_computes]
    constructor
    · intro ok
      obtain ⟨inputs, evaluated, rolled⟩ := Answer.ok_of_and_then _ _ _ ok
      exact ⟨inputs, (first_series_ok _ _ _ _ c series here.series inputs).mp evaluated,
        (rollup_compute_ok c series bucket name? flag? here inputs outputs).mp rolled⟩
    · rintro ⟨inputs, evaluated, rolled⟩
      rw [Answer.and_then_outcome, (first_series_ok _ _ _ _ c series here.series inputs).mpr evaluated]
      exact (rollup_compute_ok c series bucket name? flag? here inputs outputs).mpr rolled

def placedRollup : String := "summarize(hosts.*,'2s','max',true)"

def namedRollup : String := "summarize(alignToFrom=true, hosts.*,'2s','avg',func='max')"

def maxima : List Series :=
  [.ofValues "summarize(hosts.a,'2s','max',true)" 0 2 [2.0], .ofValues "summarize(hosts.b,'2s','max',true)" 0 2 [4.0]]

theorem host_rollups_agree :
    Target.Spells (.metric "hosts.*" 0) (.string "2s") (some (.string "max")) (some (.boolean true)) placedRollup ∧
      Target.Spells (.metric "hosts.*" 0) (.string "2s") (some (.string "max")) (some (.boolean true)) namedRollup ∧
      (Builtin.evaluator.evaluateTarget namedRollup ⟨0, 2⟩ crowded).unplaced =
        (Builtin.evaluator.evaluateTarget placedRollup ⟨0, 2⟩ crowded).unplaced ∧
      (Builtin.evaluator.evaluateTarget namedRollup ⟨0, 2⟩ crowded).outcome = .ok maxima ∧
      ∃ inputs, (Builtin.evaluator.node ⟨0, 2⟩ 64 crowded (.metric "hosts.*" 0)).outcome = .ok inputs ∧
        Rollup.RolledUp "2s" (some "max") (some true) inputs maxima := by
  have isMetric : Target.IsMetric "hosts.*".toList := Target.metric_name "hosts.*" "hosts.*" 0 rfl
  let name : Target.Identifier := ⟨'s', "ummarize".toList, rfl, List.all_eq_true.mp rfl⟩
  let func : Target.Identifier := ⟨'f', "unc".toList, rfl, List.all_eq_true.mp rfl⟩
  let alignment : Target.Identifier := ⟨'a', "lignToFrom".toList, rfl, List.all_eq_true.mp rfl⟩
  let hosts : Target.Item Target.IsMetric := .positional (.metric "hosts.*".toList isMetric)
  let width := Target.quoted "2s" (by decide)
  have placed : Target.Spells (.metric "hosts.*" 0) (.string "2s") (some (.string "max")) (some (.boolean true)) placedRollup := by
    let inside : Target.Inside Target.IsMetric :=
      .items hosts (.next Target.noSpace Target.noSpace width (.next Target.noSpace Target.noSpace
        (Target.quoted "max" (by decide)) (.next Target.noSpace Target.noSpace (Target.truth true) .nothing)))
    exact .call name rfl Target.noSpace Target.noSpace Target.noSpace inside Target.noSpace Target.noSpace
      [.positional (.metric "hosts.*" 0), .positional (.string "2s"), .positional (.string "max"), .positional (.boolean true)]
      rfl rfl rfl (.positional (by simp)) (.positional (by simp))
  have named : Target.Spells (.metric "hosts.*" 0) (.string "2s") (some (.string "max")) (some (.boolean true)) namedRollup := by
    let inside : Target.Inside Target.IsMetric :=
      .items (.named alignment Target.noSpace Target.noSpace (.boolean ⟨['t', 'r', 'u', 'e'], true, rfl⟩))
        (.next Target.noSpace ⟨[' '], List.all_eq_true.mp rfl⟩ hosts (.next Target.noSpace Target.noSpace width
          (.next Target.noSpace Target.noSpace (Target.quoted "avg" (by decide)) (.next Target.noSpace Target.noSpace
            (.named func Target.noSpace Target.noSpace (.string ⟨'\'', "max".toList, .inl rfl, by decide⟩)) .nothing))))
    let before : List Target.Argument :=
      [.named "alignToFrom" (.boolean true), .positional (.metric "hosts.*" 0), .positional (.string "2s"),
        .positional (.string "avg")]
    exact .call name rfl Target.noSpace Target.noSpace Target.noSpace inside Target.noSpace Target.noSpace
      (before ++ [.named "func" (.string "max")]) rfl rfl rfl (.named before [] _ rfl (by simp))
      (.named [] _ _ rfl (by simp))
  have computed : (Builtin.evaluator.evaluateTarget placedRollup ⟨0, 2⟩ crowded).outcome = .ok maxima := by decide +kernel
  obtain ⟨agree, rolled⟩ := spellings_agree Settings.default.evaluator ⟨0, 2⟩ crowded _ _ _ _ placedRollup placed
  have same := agree namedRollup named
  exact ⟨placed, named, same, Answer.ok_of_unplaced _ _ same.symm maxima computed,
    (rolled "2s" (some "max") (some true) rfl rfl rfl maxima).mp computed⟩

end TargetEval
