import TargetEval.Proofs.Combinations
import TargetEval.Proofs.OutputNames

set_option autoImplicit false

namespace TargetEval

namespace Combiner

section

variable (answer : Expr → Except Error (List Series)) (c : Call Expr)

/-- What a call comes to, given what its arguments come to. No two rules apply to one call. -/
inductive Ruling : Except Error (List Series) → Prop where
  | missing (none : c.arguments = []) : Ruling (.error (c.failure 0 "seriesLists" .seriesList .missing))
  | literal (before after : List Expr) (e : Expr) (split : c.arguments = before ++ e :: after)
      (earlier : ∀ b ∈ before, b.isSeries = true) (isLiteral : e.isSeries = false) :
      Ruling (.error (c.failure before.length "seriesLists" .seriesList .wrongType))
  | failing (stands : ∀ e ∈ c.arguments, e.isSeries = true) (before after : List Expr) (e : Expr)
      (split : c.arguments = before ++ e :: after) (earlier : ∀ b ∈ before, ∃ xs, answer b = .ok xs)
      (failure : Error) (fails : answer e = .error failure) : Ruling (.error failure)
  | unmatched (given : c.arguments ≠ []) (stands : ∀ e ∈ c.arguments, e.isSeries = true)
      (nothing : ∀ e ∈ c.arguments, answer e = .ok []) : Ruling (.error (.noData (c.renderedAs c.name)))
  | misaligned (stands : ∀ e ∈ c.arguments, e.isSeries = true) (lists : List (List Series))
      (evaluated : List.Forall₂ (fun e xs => answer e = .ok xs) c.arguments lists)
      (first s : Series) (before after : List Series) (joined : lists.flatten = first :: (before ++ s :: after))
      (earlier : ∀ t ∈ before, t.step = first.step ∧ t.size = first.size)
      (odd : ¬ (s.step = first.step ∧ s.size = first.size)) :
      Ruling (.error (Series.misalignment (c.renderedAs (outputName c.name)) first s))
  | combined (stands : ∀ e ∈ c.arguments, e.isSeries = true) (lists : List (List Series))
      (evaluated : List.Forall₂ (fun e xs => answer e = .ok xs) c.arguments lists)
      (first : Series) (others : List Series) (joined : lists.flatten = first :: others)
      (aligned : ∀ s ∈ others, s.step = first.step ∧ s.size = first.size)
      (combiner : Combiner) (listed : combiner ∈ Combiner.all) (named : combiner.name = c.name) (result : Series)
      (combination : Series.combine (c.renderedAs (outputName c.name)) lists.flatten combiner.reducer.reduce = .ok result) :
      Ruling (.ok [result])

def decided (combiner : Combiner) : Except Error (List Series) := do
  let _ ← c.argument 0 "seriesLists" .seriesList
  Scope.checkSeries c "seriesLists" 0 c.arguments
  let lists ← c.arguments.mapM answer
  if lists.flatten.isEmpty then throw (.noData (c.renderedAs c.name)) else combiner.compute c lists.flatten

theorem argument_given (given : c.arguments ≠ []) (name : String) : ∃ e, c.argument 0 name .seriesList = .ok e := by
  obtain ⟨e, rest, arguments⟩ := List.exists_cons_of_ne_nil given
  exact ⟨e, by rw [Call.argument, arguments, List.getElem?_cons_zero]⟩

theorem check_series_literal (name : String) (before after : List Expr) (e : Expr) (index : Nat)
    (earlier : ∀ b ∈ before, b.isSeries = true) (isLiteral : e.isSeries = false) :
    Scope.checkSeries c name index (before ++ e :: after) =
      .error (c.failure (index + before.length) name .seriesList .wrongType) := by
  induction before generalizing index with
  | nil => rw [List.nil_append, Scope.checkSeries, if_neg (by simp [isLiteral]), List.length_nil, Nat.add_zero]
  | cons b before ih =>
      obtain ⟨here, later⟩ := List.forall_mem_cons.mp earlier
      rw [List.cons_append, Scope.checkSeries, if_pos here, ih (index + 1) later, List.length_cons]
      congr 2
      omega

theorem each_nothing (items : List Expr) (lists : List (List Series))
    (evaluated : List.Forall₂ (fun e xs => answer e = .ok xs) items lists) (nothing : lists.flatten = []) :
    ∀ e ∈ items, answer e = .ok [] := by
  induction evaluated with
  | nil => exact nofun
  | cons here _ ih =>
      rw [List.flatten_cons, List.append_eq_nil_iff] at nothing
      obtain ⟨rfl, later⟩ := nothing
      exact List.forall_mem_cons.mpr ⟨here, ih later⟩

theorem decided_evaluated (combiner : Combiner) (given : c.arguments ≠ [])
    (stands : ∀ e ∈ c.arguments, e.isSeries = true) :
    decided answer c combiner = c.arguments.mapM answer >>= fun lists =>
      if lists.flatten.isEmpty then .error (.noData (c.renderedAs c.name)) else combiner.compute c lists.flatten := by
  obtain ⟨e, present⟩ := argument_given c given "seriesLists"
  rw [decided, present, (check_series_ok c "seriesLists" c.arguments 0).mpr stands]
  rfl

theorem decided_joined (combiner : Combiner) (stands : ∀ e ∈ c.arguments, e.isSeries = true) (lists : List (List Series))
    (evaluated : List.Forall₂ (fun e xs => answer e = .ok xs) c.arguments lists) (first : Series) (others : List Series)
    (joined : lists.flatten = first :: others) : decided answer c combiner = combiner.compute c (first :: others) := by
  have given : c.arguments ≠ [] := by
    intro none
    rw [none] at evaluated
    cases evaluated
    cases joined
  rw [decided_evaluated answer c combiner given stands, Answer.map_m_of_each answer evaluated, Answer.ok_bind, joined]
  rfl

theorem decided_of_ruling (combiner : Combiner) (known : ofName c.name = .ok combiner) (r : Except Error (List Series))
    (ruling : Ruling answer c r) : decided answer c combiner = r := by
  cases ruling with
  | missing none =>
      rw [decided, Call.argument, none]
      rfl
  | literal before after e split earlier isLiteral =>
      have given : c.arguments ≠ [] := by simp [split]
      obtain ⟨first, present⟩ := argument_given c given "seriesLists"
      rw [decided, present, split, check_series_literal c _ before after e 0 earlier isLiteral, Nat.zero_add]
      rfl
  | failing stands before after e split earlier failure fails =>
      have given : c.arguments ≠ [] := by simp [split]
      rw [decided_evaluated answer c combiner given stands, split, Answer.map_m_failing answer before after e failure earlier fails]
      rfl
  | unmatched given stands nothing =>
      have each : List.Forall₂ (fun e xs => answer e = .ok xs) c.arguments (c.arguments.map fun _ => []) :=
        List.forall₂_map_right_iff.mpr (List.forall₂_same.mpr nothing)
      have empty : (c.arguments.map fun _ => ([] : List Series)).flatten = [] := by simp
      rw [decided_evaluated answer c combiner given stands, Answer.map_m_of_each answer each, Answer.ok_bind, empty]
      rfl
  | misaligned stands lists evaluated first s before after joined earlier odd =>
      rw [decided_joined answer c combiner stands lists evaluated first _ joined, compute,
        Series.combine_misaligned _ first _ before after s earlier odd]
      rfl
  | combined stands lists evaluated first others joined aligned other listed named result combination =>
      have same : other = combiner := by
        have found := Grouping.of_name_combiner other listed
        rw [named, known] at found
        exact (Except.ok.inj found).symm
      rw [decided_joined answer c combiner stands lists evaluated first _ joined, compute, ← joined, ← same, combination]
      rfl

theorem ruling_of_series (stands : ∀ e ∈ c.arguments, e.isSeries = true) (lists : List (List Series))
    (evaluated : List.Forall₂ (fun e xs => answer e = .ok xs) c.arguments lists) (first : Series) (others : List Series)
    (joined : lists.flatten = first :: others) (listed : c.name ∈ names) : ∃ r, Ruling answer c r := by
  by_cases aligned : ∀ s ∈ others, s.step = first.step ∧ s.size = first.size
  · obtain ⟨combiner, known, named⟩ := List.mem_map.mp listed
    have combination := Series.combine_aligned (c.renderedAs (outputName c.name)) first others combiner.reducer.reduce aligned
    rw [← joined] at combination
    exact ⟨_, .combined stands lists evaluated first others joined aligned combiner known named _ combination⟩
  · obtain ⟨before, s, after, rfl, earlier, odd⟩ := Grouping.first_exception _ others aligned
    exact ⟨_, .misaligned stands lists evaluated first s before after joined earlier odd⟩

theorem ruling_exists (listed : c.name ∈ names) : ∃ r, Ruling answer c r := by
  by_cases none : c.arguments = []
  · exact ⟨_, .missing none⟩
  by_cases stands : ∀ e ∈ c.arguments, e.isSeries = true
  · by_cases ok : ∀ e ∈ c.arguments, ∃ xs, answer e = .ok xs
    · obtain ⟨lists, evaluated⟩ := Answer.each_of_ok answer c.arguments ok
      cases joined : lists.flatten with
      | nil => exact ⟨_, .unmatched none stands (each_nothing answer c.arguments lists evaluated joined)⟩
      | cons first others => exact ruling_of_series answer c stands lists evaluated first others joined listed
    · obtain ⟨before, e, after, split, earlier, fails⟩ := Grouping.first_exception _ c.arguments ok
      cases failed : answer e with
      | error failure => exact ⟨_, .failing stands before after e split earlier failure failed⟩
      | ok xs => exact absurd ⟨xs, failed⟩ fails
  · obtain ⟨before, e, after, split, earlier, isLiteral⟩ := Grouping.first_exception _ c.arguments stands
    exact ⟨_, .literal before after e split earlier (Bool.eq_false_iff.mpr isLiteral)⟩

theorem decided_without (combiner : Combiner) (before after : List Expr) (e : Expr) (split : c.arguments = before ++ e :: after)
    (stands : ∀ a ∈ c.arguments, a.isSeries = true) (others : before ++ after ≠ []) (nothing : answer e = .ok []) :
    decided answer { c with arguments := before ++ after } combiner = decided answer c combiner := by
  have fewer : ∀ a ∈ before ++ after, a.isSeries = true := by
    intro a member
    refine stands a ?_
    rw [split]
    rcases List.mem_append.mp member with front | back
    · exact List.mem_append_left _ front
    · exact List.mem_append_right _ (List.mem_cons_of_mem _ back)
  rw [decided_evaluated answer _ combiner others fewer, decided_evaluated answer c combiner (by simp [split]) stands, split,
    List.mapM_append, List.mapM_append, List.mapM_cons, nothing]
  cases before.mapM answer with
  | error failure => rfl
  | ok front =>
      cases after.mapM answer with
      | error failure => rfl
      | ok back =>
          simp only [Answer.ok_bind, pure, Except.pure, List.flatten_append, List.flatten_cons, List.nil_append]
          rfl

end

theorem node_decided (ev : Evaluator) (builtin : ev.registry = Builtin.registry) (window : Window) (levels : Nat)
    (index : SeriesIndex) (c : Call Expr) (listed : c.name ∈ names) (combiner : Combiner)
    (known : ofName c.name = .ok combiner) :
    (ev.node window (levels + 1) index (.call c)).outcome =
      decided (fun e => (ev.node window levels index e).outcome) c combiner := by
  have resolved := builtin ▸ Builtin.resolve_listed (names, function) (by simp [Builtin.table]) c.name
    listed c.position
  rw [node_call ev window levels index c function resolved, Answer.followed_by_outcome, combiner_run, known, all_series]
  simp only [Answer.and_then_outcome, Answer.of_except_outcome, Answer.ok_bind, argument_lists_outcome, decided, bind_assoc]
  refine bind_congr fun _ => bind_congr fun _ => bind_congr fun lists => ?_
  split
  · rfl
  · rfl

end Combiner

/-- A call of a combinator, evaluated sequentially or in parallel, comes to what the first rule that
applies says. An argument without series changes nothing if there is another argument. A call that is
the whole target has as many levels below it as the evaluator allows, and an argument has one less. -/
theorem combiner_outcome_ruled (ev : Evaluator) (builtin : ev.registry = Builtin.registry) (window : Window) (levels : Nat)
    (index : SeriesIndex) (c : Call Expr) (listed : c.name ∈ Combiner.names) :
    (∀ r, (ev.node window (levels + 1) index (.call c)).outcome = r ↔
      Combiner.Ruling (fun e => (ev.node window levels index e).outcome) c r) ∧
    (∀ before e after, c.arguments = before ++ e :: after → (∀ a ∈ c.arguments, a.isSeries = true) → before ++ after ≠ [] →
      (ev.node window levels index e).outcome = .ok [] →
      (ev.node window (levels + 1) index (.call { c with arguments := before ++ after })).outcome =
        (ev.node window (levels + 1) index (.call c)).outcome) := by
  obtain ⟨combiner, known, named⟩ := List.mem_map.mp listed
  have found : Combiner.ofName c.name = .ok combiner := named ▸ Grouping.of_name_combiner combiner known
  have outcome := Combiner.node_decided ev builtin window levels index
  refine ⟨fun r => ⟨?_, fun ruling => ?_⟩, fun before e after split stands others nothing => ?_⟩
  · rintro rfl
    obtain ⟨r, ruling⟩ := Combiner.ruling_exists (fun e => (ev.node window levels index e).outcome) c listed
    rwa [outcome c listed combiner found, Combiner.decided_of_ruling _ c combiner found r ruling]
  · rw [outcome c listed combiner found]
    exact Combiner.decided_of_ruling _ c combiner found r ruling
  · rw [outcome c listed combiner found, outcome { c with arguments := before ++ after } listed combiner found]
    exact Combiner.decided_without _ c combiner before after e split stands others nothing

def ghostSum : Call Expr := ⟨"sum", [.metric "ghost" 4, .metric "hosts.*" 10], [], "ghost,hosts.*", 0⟩

def literalSum : Call Expr :=
  ⟨"sum", [.call ⟨"bogus", [], [], "", 4⟩, .metric "hosts.*" 12, .number 1.0, .string "x"], [], "bogus(),hosts.*,1,'x'", 0⟩

def ghostTotal : Series := .ofValues "sum(ghost,hosts.*)" 0 1 [4.0, 6.0]

theorem sums_ruled :
    ghostSum.name ∈ Combiner.names ∧
      Combiner.Ruling (fun e => (Builtin.evaluator.node ⟨0, 2⟩ 1 crowded e).outcome) ghostSum (.ok [ghostTotal]) ∧
      (Builtin.evaluator.node ⟨0, 2⟩ 2 crowded (.call { ghostSum with arguments := [.metric "hosts.*" 10] })).outcome =
        .ok [ghostTotal] ∧
      literalSum.name ∈ Combiner.names ∧
      (Builtin.evaluator.node ⟨0, 2⟩ 2 crowded (.call literalSum)).outcome =
        .error (literalSum.failure 2 "seriesLists" .seriesList .wrongType) := by
  have listed : ghostSum.name ∈ Combiner.names := by decide
  have literal : literalSum.name ∈ Combiner.names := by decide
  have outcome : (Builtin.evaluator.node ⟨0, 2⟩ 2 crowded (.call ghostSum)).outcome = .ok [ghostTotal] := by decide +kernel
  obtain ⟨ruled, without⟩ := combiner_outcome_ruled Builtin.evaluator rfl ⟨0, 2⟩ 1 crowded ghostSum listed
  have fewer := without [] (.metric "ghost" 4) [.metric "hosts.*" 10] rfl
    (List.forall_mem_cons.mpr ⟨rfl, List.forall_mem_singleton.mpr rfl⟩) (List.cons_ne_nil _ _) rfl
  obtain ⟨decides, _⟩ := combiner_outcome_ruled Builtin.evaluator rfl ⟨0, 2⟩ 1 crowded literalSum literal
  refine ⟨listed, (ruled _).mp outcome, fewer.trans outcome, literal, (decides _).mpr ?_⟩
  exact .literal [.call ⟨"bogus", [], [], "", 4⟩, .metric "hosts.*" 12] [.string "x"] (.number 1.0) rfl
    (List.forall_mem_cons.mpr ⟨rfl, List.forall_mem_singleton.mpr rfl⟩) rfl

end TargetEval
