import TargetEval.Proofs.Arguments
import TargetEval.Proofs.Callbacks
import TargetEval.Proofs.GroupKeys
import TargetEval.Proofs.Sources

set_option autoImplicit false

namespace TargetEval

-- The answer of a node at a nesting depth; the root has depth zero.
def Evaluator.nodeAt (ev : Evaluator) (window : Window) (depth : Nat) (index : SeriesIndex) (e : Expr) :
    Answer (List Series) :=
  ev.node window (ev.settings.maxDepth + 1 - depth) index e

namespace Grouping

/-- What a grouping call asks for. The callback of `groupByNode` is given by name, by position or not
at all; that of `groupByNodes` stands before its numbers. -/
inductive Asks (c : Call Expr) : Options → Prop
  | byNode (name : c.name = "groupByNode") (e : Expr) (node : Int64) (callback : String)
      (here : c.arguments[1]? = some e) (number : e.IsInteger node)
      (given : (c.named? "callback" 2).getD (.string "average") = .string callback) :
      Asks c ⟨callback, [node], 1, "nodeNum"⟩
  | byNodes (name : c.name = "groupByNodes") (callback : String) (nodes : List Int64)
      (given : c.arguments[1]? = some (.string callback)) (more : c.arguments.drop 2 ≠ [])
      (numbers : List.Forall₂ Expr.IsInteger (c.arguments.drop 2) nodes) :
      Asks c ⟨callback, nodes, 2, "nodes"⟩

theorem options_ok (c : Call Expr) (grouping : c.name = "groupByNode" ∨ c.name = "groupByNodes") (o : Options) :
    options c = .ok o ↔ Asks c o := by
  unfold options
  constructor
  · intro ok
    split at ok
    next one =>
      obtain ⟨node, number, ok⟩ := Answer.ok_of_bind _ _ _ ok
      obtain ⟨callback, given, ok⟩ := Answer.ok_of_bind _ _ _ ok
      cases ok
      obtain ⟨e, here, whole⟩ := (c.integer_ok 1 "nodeNum" node).mp number
      exact .byNode one e node callback here whole ((c.string_or_ok 2 "callback" "average" callback).mp given)
    next other =>
      obtain ⟨callback, given, ok⟩ := Answer.ok_of_bind _ _ _ ok
      obtain ⟨nodes, numbers, ok⟩ := Answer.ok_of_bind _ _ _ ok
      cases ok
      obtain ⟨more, whole⟩ := (c.integers_from_ok 2 "nodes" nodes).mp numbers
      exact .byNodes (grouping.resolve_left other) callback nodes ((c.string_ok 1 "callback" callback).mp given) more whole
  · intro asked
    cases asked with
    | byNode name e node callback here number given =>
        rw [if_pos name, (c.integer_ok 1 "nodeNum" node).mpr ⟨e, here, number⟩, Answer.ok_bind,
          (c.string_or_ok 2 "callback" "average" callback).mpr given]
        rfl
    | byNodes name callback nodes given more numbers =>
        rw [if_neg (by simp [name]), (c.string_ok 1 "callback" callback).mpr given, Answer.ok_bind,
          (c.integers_from_ok 2 "nodes" nodes).mpr ⟨more, numbers⟩]
        rfl

theorem Asks.grouping {c : Call Expr} {o : Options} (asked : Asks c o) :
    c.name = "groupByNode" ∨ c.name = "groupByNodes" := by
  cases asked with
  | byNode name => exact .inl name
  | byNodes name => exact .inr name

def keys (o : Options) (series : List Series) : List String :=
  (series.map fun s => keyAt o.nodes s.name).eraseDups

def members (o : Options) (series : List Series) (key : String) : List Series :=
  series.filter fun s => keyAt o.nodes s.name = key

def direct (o : Options) (r : Reducer) (series : List Series) (key : String) : Except Error Series :=
  (Series.combine (title o.callback r key) (members o series key) r.reduce).map fun s => s.renamed key

theorem members_occupied (o : Options) (series : List Series) (key : String) (listed : key ∈ keys o series) :
    (members o series key).isEmpty = false := by
  obtain ⟨s, member, same⟩ := List.mem_map.mp (List.mem_eraseDups.mp listed)
  exact List.isEmpty_eq_false_iff_exists_mem.mpr ⟨s, List.mem_filter.mpr ⟨member, decide_eq_true same⟩⟩

def Aligned (series : List Series) : Prop := ∀ s ∈ series, ∀ t ∈ series, s.step = t.step ∧ s.size = t.size

theorem aligned_cons (first : Series) (others : List Series)
    (aligned : ∀ other ∈ others, first.isAligned other = true) : Aligned (first :: others) := by
  have asFirst : ∀ s ∈ first :: others, first.step = s.step ∧ first.size = s.size := by
    refine List.forall_mem_cons.mpr ⟨⟨rfl, rfl⟩, fun other member => ?_⟩
    have same := aligned other member
    simpa only [Series.isAligned, Bool.and_eq_true, decide_eq_true_eq] using same
  intro s here t there
  obtain ⟨step, size⟩ := asFirst s here
  obtain ⟨step', size'⟩ := asFirst t there
  exact ⟨step.symm.trans step', size.symm.trans size'⟩

theorem combine_occupied (name : String) (fold : List Float → Float) (series : List Series)
    (occupied : series.isEmpty = false) :
    (Aligned series → ∃ result, Series.combine name series fold = .ok result) ∧
      (¬ Aligned series → ∃ detail, Series.combine name series fold = .error (.shapeMismatch detail)) := by
  cases series with
  | nil => cases occupied
  | cons first others =>
      cases odd : others.find? fun other => !first.isAligned other with
      | some other =>
          have refused : Series.combine name (first :: others) fold =
              .error (Series.misalignment name first other) := by
            simp only [Series.combine, odd]
          refine ⟨fun aligned => ?_, fun _ => ⟨_, refused⟩⟩
          have same := aligned first List.mem_cons_self other (List.mem_cons_of_mem _ (List.mem_of_find?_eq_some odd))
          have misaligned := List.find?_some odd
          simp [Series.isAligned, same] at misaligned
      | none =>
          refine ⟨fun _ => ⟨_, by simp only [Series.combine, odd]; rfl⟩, fun misaligned => absurd ?_ misaligned⟩
          exact aligned_cons first others fun other member => by simpa using List.find?_eq_none.mp odd other member

theorem direct_cases (o : Options) (r : Reducer) (series : List Series) (key : String) (listed : key ∈ keys o series) :
    (Aligned (members o series key) → ∃ s, direct o r series key = .ok s) ∧
      (¬ Aligned (members o series key) → ∃ detail, direct o r series key = .error (.shapeMismatch detail)) := by
  obtain ⟨accepted, refused⟩ := combine_occupied (title o.callback r key) r.reduce (members o series key)
    (members_occupied o series key listed)
  constructor
  · intro aligned
    obtain ⟨result, combined⟩ := accepted aligned
    exact ⟨result.renamed key, by rw [direct, combined]; rfl⟩
  · intro misaligned
    obtain ⟨detail, combined⟩ := refused misaligned
    exact ⟨detail, by rw [direct, combined]; rfl⟩

section

variable (computed : String → Except Error Series) (answer : String → Except Error (List Series))

theorem strict_results (keys : List String) (each : ∀ key ∈ keys, answer key = (computed key).map fun s => [s]) :
    (keys.mapM answer >>= fun results => .ok results.flatten) = keys.mapM computed := by
  induction keys with
  | nil => rfl
  | cons key rest ih =>
      obtain ⟨here, later⟩ := List.forall_mem_cons.mp each
      rw [List.mapM_cons, List.mapM_cons, ← ih later, here]
      cases computed key with
      | error e => rfl
      | ok s =>
          cases rest.mapM answer with
          | error e => rfl
          | ok results => rfl

theorem lenient_results (keys : List String) (each : ∀ key ∈ keys, answer key = (computed key).map fun s => [s]) :
    (keys.mapM (fun key => Except.ok ((answer key).toOption.getD [])) >>= fun results => .ok results.flatten) =
      Except.ok (ε := Error) (keys.filterMap fun key => (computed key).toOption) := by
  induction keys with
  | nil => rfl
  | cons key rest ih =>
      obtain ⟨here, later⟩ := List.forall_mem_cons.mp each
      have tail := ih later
      rw [List.mapM_cons, List.filterMap_cons, here]
      cases collected : rest.mapM (fun key => Except.ok (ε := Error) ((answer key).toOption.getD [])) with
      | error e =>
          rw [collected] at tail
          cases tail
      | ok results =>
          rw [collected] at tail
          have flat := Except.ok.inj tail
          cases computed key with
          | error e => exact congrArg Except.ok flat
          | ok s => exact congrArg (fun more => Except.ok (s :: more)) flat

end

section

variable (settings : EvaluatorSettings) (window : Window) (index : SeriesIndex) (c : Call Expr)

theorem results_outcome (levels : Nat) (o : Options) (r : Reducer) (denotes : callbackReducer? o.callback = some r)
    (series : List Series) :
    let scope := (Builtin.evaluatorWith settings).scope window (levels + 2) index
    let evaluated := fun group => keepOrDrop scope c (evaluateGroup scope (.call (callbackCall o.callback)) group)
    ((Answer.inOrder evaluated (grouped (fun s => keyAt o.nodes s.name) series)).andThen fun results =>
        Answer.done results.flatten).outcome =
      if settings.lenientGrouping then .ok ((keys o series).filterMap fun key => (direct o r series key).toOption)
      else (keys o series).mapM (direct o r series) := by
  intro scope evaluated
  have each : ∀ key ∈ keys o series,
      (evaluateGroup scope (.call (callbackCall o.callback)) (key, members o series key)).outcome =
        (direct o r series key).map fun s => [s] := by
    intro key listed
    rw [group_outcome settings window levels index o.callback r denotes key _ (members_occupied o series key listed),
      direct]
    cases Series.combine (title o.callback r key) (members o series key) r.reduce with
    | error e => rfl
    | ok s => rfl
  have lenience : scope.settings = settings := rfl
  simp only [Answer.and_then_outcome, Answer.in_order_outcome, Answer.done_outcome, grouped, List.mapM_map, evaluated,
    keep_or_drop_outcome, lenience]
  cases settings.lenientGrouping with
  | true => exact lenient_results _ _ _ each
  | false => exact strict_results _ _ _ each

theorem series_of_ok (ev : Evaluator) (levels : Nat) (e : Expr) (series : List Series)
    (evaluated : (ev.node window (levels + 1) index e).outcome = .ok series) : e.isSeries = true := by
  cases e with
  | metric name position => rfl
  | call c => rfl
  | number value => cases evaluated
  | string value => cases evaluated
  | boolean value => cases evaluated

theorem grouping_outcome (levels : Nat) (e : Expr) (first : c.arguments[0]? = some e) (series : List Series)
    (evaluated : ((Builtin.evaluatorWith settings).node window (levels + 2) index e).outcome = .ok series)
    (o : Options) (asked : Asks c o) (r : Reducer) (denotes : callbackReducer? o.callback = some r) :
    ((Builtin.evaluatorWith settings).node window (levels + 3) index (.call c)).outcome =
      groups c o series >>= fun found =>
        ((Answer.inOrder (fun group =>
          keepOrDrop ((Builtin.evaluatorWith settings).scope window (levels + 2) index) c
            (evaluateGroup ((Builtin.evaluatorWith settings).scope window (levels + 2) index)
              (.call (callbackCall o.callback)) group)) found).andThen fun results =>
                Answer.done results.flatten).outcome := by
  have coerced := (options_ok c asked.grouping o).mpr asked
  have listed : c.name ∈ ["groupByNode", "groupByNodes"] := by simpa using asked.grouping
  have row := Builtin.resolve_listed (["groupByNode", "groupByNodes"], function) (by simp [Builtin.table]) c.name listed
    c.position
  have isSeries := series_of_ok window index _ (levels + 1) e series evaluated
  have given := c.series_ok 0 "seriesList" e first isSeries
  have argument : (((Builtin.evaluatorWith settings).scope window (levels + 2) index).evaluate e).outcome = .ok series :=
    evaluated
  rw [node_call _ window (levels + 2) index c _ row, Answer.followed_by_outcome, grouping_run, series_argument, given]
  simp only [Answer.and_then_outcome, Answer.of_except_outcome, Answer.ok_bind, argument, coerced,
    template_call settings window (levels + 2) index o.callback r denotes c]

/-- A grouping call is the combination of each group by itself, for the callback and the node
numbers that it asks for and for every callback that denotes a reducer. It fails with the first node
that the first keyless series lacks. With a key for every series there is one result for each key,
in first-seen order; groups whose members do not align are dropped or fail the call. -/
theorem grouping_combines_groups (depth : Nat) (room : depth + 2 ≤ settings.maxDepth)
    (e : Expr) (first : c.arguments[0]? = some e) (series : List Series)
    (evaluated : ((Builtin.evaluatorWith settings).nodeAt window (depth + 1) index e).outcome = .ok series)
    (o : Options) (asked : Asks c o) (r : Reducer) (denotes : callbackReducer? o.callback = some r) :
    let outcome := ((Builtin.evaluatorWith settings).nodeAt window depth index (.call c)).outcome
    ((¬ ∀ s ∈ series, HasKey o s) →
      ∃ before s after earlier number later,
        series = before ++ s :: after ∧ (∀ t ∈ before, HasKey o t) ∧
          o.nodes = earlier ++ number :: later ∧ (∀ n ∈ earlier, HasNode (MetricName.nodes s.name).length n) ∧
          ¬ HasNode (MetricName.nodes s.name).length number ∧
          outcome = .error (missingNode c o s earlier.length number)) ∧
    ((∀ s ∈ series, HasKey o s) →
      outcome =
        if settings.lenientGrouping then .ok ((keys o series).filterMap fun key => (direct o r series key).toOption)
        else (keys o series).mapM (direct o r series)) ∧
    ∀ key ∈ keys o series,
      (Aligned (members o series key) → ∃ s, direct o r series key = .ok s) ∧
        (¬ Aligned (members o series key) → ∃ detail, direct o r series key = .error (.shapeMismatch detail)) := by
  -- The callback runs one level below the call and its metric two.
  obtain ⟨levels, levelled⟩ := Nat.exists_eq_add_of_le room
  have inner : settings.maxDepth + 1 - (depth + 1) = levels + 2 := by omega
  have outer : settings.maxDepth + 1 - depth = levels + 3 := by omega
  have settled : (Builtin.evaluatorWith settings).settings = settings := rfl
  simp only [Evaluator.nodeAt, settled, inner] at evaluated
  simp only [Evaluator.nodeAt, settled, outer]
  have computed := grouping_outcome settings window index c levels e first series evaluated o asked r denotes
  refine ⟨fun missing => ?_, fun present => ?_, direct_cases o r series⟩
  · obtain ⟨before, s, after, earlier, number, later, split, present, chosen, fine, lacking, failed⟩ :=
      groups_missing c o series missing
    refine ⟨before, s, after, earlier, number, later, split, present, chosen, fine, lacking, ?_⟩
    rw [computed, failed, Answer.error_bind]
  · rw [computed, groups_present c o series present, Answer.ok_bind]
    exact results_outcome settings window index c levels o r denotes series

end

def fleet : List Series :=
  [.ofValues "east.web" 0 1 [1.0, 2.0], .ofValues "west.web" 0 1 [3.0, 4.0], .ofValues "east.db" 0 1 [5.0]]

def byRegion (node : Float) : Call Expr :=
  ⟨"groupByNode", [.metric "*" 12, .number node, .string "total"], [], "*, " ++ numberText node ++ ", 'total'", 0⟩

def byServiceAndRegion : Call Expr :=
  ⟨"groupByNodes", [.metric "*" 12, .string "total", .number 1, .number 0], [], "*, 'total', 1, 0", 0⟩

def ofFleet (c : Call Expr) (lenientGrouping : Bool) : Except Error (List Series) :=
  ((Builtin.evaluatorWith { Settings.default.evaluator with lenientGrouping }).nodeAt ⟨0, 2⟩ 0
    (.single ⟨"*", ⟨0, 2⟩⟩ fleet) (.call c)).outcome

-- The two series of the east do not align.
theorem fleet_by_region :
    ofFleet (byRegion 0) true = .ok [.ofValues "west" 0 1 [3.0, 4.0]] ∧
      ofFleet (byRegion 0) false = .error (Series.misalignment "sumSeries(east)" fleet[0] fleet[2]) ∧
      (∃ s ∈ fleet,
        ofFleet (byRegion (-3)) true = .error (missingNode (byRegion (-3)) ⟨"total", [-3], 1, "nodeNum"⟩ s 0 (-3))) ∧
      ofFleet byServiceAndRegion false =
        .ok [.ofValues "web.east" 0 1 [1.0, 2.0], .ofValues "web.west" 0 1 [3.0, 4.0], .ofValues "db.east" 0 1 [5.0]] := by
  have room : 0 + 2 ≤ Settings.default.evaluator.maxDepth := by decide
  have region (node : Float) (n : Int64) (number : (Expr.number node).IsInteger n) :
      Asks (byRegion node) ⟨"total", [n], 1, "nodeNum"⟩ := .byNode rfl (.number node) n "total" rfl number rfl
  have zero : (Expr.number 0).IsInteger 0 := ⟨0, 0, rfl, by decide +kernel, by decide⟩
  have one : (Expr.number 1).IsInteger 1 := ⟨1, 1, rfl, by decide +kernel, by decide⟩
  have third : (Expr.number (-3)).IsInteger (-3) := ⟨-3, -3, rfl, by decide +kernel, by decide⟩
  have both : Asks byServiceAndRegion ⟨"total", [1, 0], 2, "nodes"⟩ :=
    .byNodes rfl "total" [1, 0] rfl (by simp [byServiceAndRegion]) (.cons one (.cons zero .nil))
  have combined (c : Call Expr) (first : c.arguments[0]? = some (.metric "*" 12)) (lenientGrouping : Bool) (o : Options)
      (asked : Asks c o) (total : callbackReducer? o.callback = some .sum) :=
    grouping_combines_groups { Settings.default.evaluator with lenientGrouping } ⟨0, 2⟩ (.single ⟨"*", ⟨0, 2⟩⟩ fleet)
      c 0 room (.metric "*" 12) first fleet rfl o asked .sum total
  have present : ∀ s ∈ fleet, HasKey ⟨"total", [0], 1, "nodeNum"⟩ s := by decide +kernel
  refine ⟨?_, ?_, ?_, ?_⟩
  · exact ((combined _ rfl true _ (region 0 0 zero) rfl).2.1 present).trans (by decide +kernel)
  · exact ((combined _ rfl false _ (region 0 0 zero) rfl).2.1 present).trans (by decide +kernel)
  · obtain ⟨before, s, after, earlier, number, later, split, _, chosen, _, _, failed⟩ :=
      (combined _ rfl true _ (region (-3) (-3) third) rfl).1 (by decide +kernel)
    have here : s ∈ fleet := split ▸ by simp
    obtain ⟨rfl, rfl, rfl⟩ : earlier = [] ∧ number = -3 ∧ later = [] := by
      simpa [List.singleton_eq_append_iff] using chosen
    exact ⟨s, here, failed⟩
  · exact ((combined _ rfl false _ both rfl).2.1 (by decide +kernel)).trans (by decide +kernel)

end Grouping

end TargetEval
