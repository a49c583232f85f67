import Mathlib.Tactic.FinCases
import TargetEval.Proofs.Arguments
import TargetEval.Proofs.Builtins
import TargetEval.Proofs.Index
import TargetEval.Proofs.Replacements
import TargetEval.Target.Reading

set_option autoImplicit false

namespace TargetEval.Grouping

-- The reducer that a callback denotes: that of the combinator of its name, or else the reducer of
-- its name.
def callbackReducer? (callback : String) : Option Reducer :=
  match Combiner.all.find? fun combiner => combiner.name = callback with
  | some combiner => some combiner.reducer
  | none => Reducer.ofName? callback

def reducerNames : List String := Reducer.all.map Reducer.name ++ Reducer.aliases.map Prod.fst

theorem combinator_template (callback : String) (listed : callback ∈ Combiner.names) :
    Target.read (callback ++ "(" ++ placeholder ++ ")") =
      .ok (.call ⟨callback, [.metric placeholder (callback.utf8ByteSize + 1)], [], placeholder, 0⟩) := by
  fin_cases listed <;> rfl

theorem aggregate_template (callback : String) (listed : callback ∈ reducerNames) :
    Target.read ("aggregate(" ++ placeholder ++ ",'" ++ callback ++ "')") =
      .ok (.call ⟨"aggregate", [.metric placeholder 10, .string callback], [],
        placeholder ++ ",'" ++ callback ++ "'", 0⟩) := by
  fin_cases listed <;> rfl

theorem of_name_mem (callback : String) (r : Reducer) (named : Reducer.ofName? callback = some r) :
    callback ∈ reducerNames := by
  unfold Reducer.ofName? at named
  split at named
  next found =>
    have same := List.find?_some found
    exact List.mem_append_left _ (List.mem_map.mpr ⟨_, List.mem_of_find?_eq_some found, of_decide_eq_true same⟩)
  next =>
    obtain ⟨entry, found, _⟩ := Option.map_eq_some_iff.mp named
    have same := List.find?_some found
    exact List.mem_append_right _ (List.mem_map.mpr ⟨entry, List.mem_of_find?_eq_some found, of_decide_eq_true same⟩)

theorem reducer_unregistered :
    ∀ name ∈ reducerNames, name ∉ Combiner.names → Builtin.registry.contains name = false := by
  decide +kernel

theorem callback_cases (callback : String) (r : Reducer) (denotes : callbackReducer? callback = some r) :
    (∃ combiner ∈ Combiner.all, combiner.name = callback ∧ combiner.reducer = r) ∨
      callback ∉ Combiner.names ∧ Reducer.ofName? callback = some r := by
  unfold callbackReducer? at denotes
  split at denotes
  next combiner found =>
    have same := List.find?_some found
    exact .inl ⟨combiner, List.mem_of_find?_eq_some found, of_decide_eq_true same, Option.some.inj denotes⟩
  next absent =>
    refine .inr ⟨fun listed => ?_, denotes⟩
    obtain ⟨combiner, member, same⟩ := List.mem_map.mp listed
    exact List.find?_eq_none.mp absent combiner member (decide_eq_true same)

theorem of_name_combiner : ∀ combiner ∈ Combiner.all, Combiner.ofName combiner.name = .ok combiner := by
  decide +kernel

theorem series_argument_only (c : Call Expr) (e : Expr) (only : c.arguments = [e]) (series : e.isSeries = true)
    (name : String) : c.argument 0 name .seriesList = .ok e ∧ Scope.checkSeries c name 0 c.arguments = .ok () := by
  simp only [Call.argument, only, Scope.checkSeries, series]
  exact ⟨rfl, rfl⟩

section

variable (ev : Evaluator) (builtin : ev.registry = Builtin.registry) (window : Window) (levels : Nat)
  (index : SeriesIndex) (key : String) (position : Nat)

theorem argument_lists_only (c : Call Expr) (only : c.arguments = [.metric key position]) :
    ((ev.scope window (levels + 1) index).argumentLists c).outcome = .ok [index.get ⟨key, window⟩] := by
  unfold Scope.argumentLists
  rw [only]
  split
  · rw [Answer.all_of_outcome]
    rfl
  · rw [Answer.in_order_outcome]
    rfl

include builtin

theorem combinator_outcome (combiner : Combiner) (listed : combiner ∈ Combiner.all) (c : Call Expr)
    (named : c.name = combiner.name) (only : c.arguments = [.metric key position])
    (found : (index.get ⟨key, window⟩).isEmpty = false) :
    (ev.node window (levels + 2) index (.call c)).outcome =
      (Series.combine (c.renderedAs (Combiner.outputName c.name)) (index.get ⟨key, window⟩)
        combiner.reducer.reduce).map fun s => [s] := by
  have row := Builtin.resolve_listed (Combiner.names, Combiner.function) (by simp [Builtin.table]) c.name
    (named ▸ List.mem_map_of_mem listed) c.position
  obtain ⟨given, checked⟩ := series_argument_only c _ only rfl "seriesLists"
  have lists := argument_lists_only ev window levels index key position c only
  rw [node_call ev window (levels + 1) index c _ (builtin ▸ row), Answer.followed_by_outcome, combiner_run, all_series,
    named, of_name_combiner combiner listed, given, checked]
  simp only [Answer.and_then_outcome, Answer.of_except_outcome, lists, Answer.ok_bind, List.flatten_cons,
    List.flatten_nil, List.append_nil, found, Bool.false_eq_true, ↓reduceIte, Answer.done_outcome, ← named]
  rfl

theorem aggregate_outcome (callback : String) (r : Reducer) (reduced : Reducer.ofName? callback = some r)
    (c : Call Expr) (named : c.name = "aggregate") (given : c.arguments = [.metric key position, .string callback])
    (found : (index.get ⟨key, window⟩).isEmpty = false) :
    (ev.node window (levels + 2) index (.call c)).outcome =
      (Series.combine (r.name ++ "Series(" ++ key ++ ")") (index.get ⟨key, window⟩) r.reduce).map fun s => [s] := by
  have row := Builtin.resolve_listed (["aggregate"], Aggregate.function) (by simp [Builtin.table]) c.name
    (named ▸ List.mem_cons_self) c.position
  have first := c.series_ok 0 "seriesList" (.metric key position) (by rw [given]; rfl) rfl
  have evaluated : ((ev.scope window (levels + 1) index).evaluate (.metric key position)).outcome =
      .ok (index.get ⟨key, window⟩) := rfl
  have written := (c.string_ok 1 "func" callback).mpr (by rw [given]; rfl)
  have named : Reducer.ofName callback = .ok r := by rw [Reducer.ofName, reduced]
  rw [node_call ev window (levels + 1) index c _ (builtin ▸ row), Answer.followed_by_outcome, aggregate_computes,
    series_argument, first]
  simp only [Answer.and_then_outcome, Answer.of_except_outcome, Answer.ok_bind, evaluated, Aggregate.compute, written,
    named, found, given, Bool.false_eq_true, ↓reduceIte]
  rfl

end

def title (callback : String) (r : Reducer) (key : String) : String :=
  (if callback ∈ Combiner.names then Combiner.outputName callback ++ "(" else r.name ++ "Series(") ++ key ++ ")"

def callbackCall (callback : String) : Call Expr :=
  if callback ∈ Combiner.names then
    ⟨callback, [.metric placeholder (callback.utf8ByteSize + 1)], [], placeholder, 0⟩
  else ⟨"aggregate", [.metric placeholder 10, .string callback], [], placeholder ++ ",'" ++ callback ++ "'", 0⟩

section

variable (settings : EvaluatorSettings) (window : Window) (levels : Nat) (index : SeriesIndex) (callback : String)
  (r : Reducer) (denotes : callbackReducer? callback = some r)

include denotes

theorem template_call (c : Call Expr) :
    template ((Builtin.evaluatorWith settings).scope window levels index) c callback =
      .ok (.call (callbackCall callback)) := by
  change (templateText _ c callback >>= Target.read) = _
  unfold templateText callbackCall
  change ((if Builtin.registry.contains callback then _ else _) >>= Target.read) = _
  rcases callback_cases callback r denotes with ⟨combiner, member, rfl, _⟩ | ⟨unlisted, named⟩
  · have listed : combiner.name ∈ Combiner.names := List.mem_map_of_mem member
    have registered := Builtin.rows_registered (Combiner.names, Combiner.function) (by simp [Builtin.table]) _ listed
    rw [if_pos registered, if_pos listed, Answer.ok_bind, combinator_template _ listed]
  · have listed := of_name_mem callback r named
    rw [if_neg (by simp [reducer_unregistered callback listed unlisted]), if_neg unlisted, if_pos (by simp [named]),
      Answer.ok_bind, aggregate_template callback listed]

theorem callback_outcome (key : String) (members : List Series) (occupied : members.isEmpty = false) :
    ((Builtin.evaluatorWith settings).node window (levels + 2) (.single ⟨key, window⟩ members)
        ((Expr.call (callbackCall callback)).rename placeholder key)).outcome =
      (Series.combine (title callback r key) members r.reduce).map fun s => [s] := by
  have found : (SeriesIndex.single ⟨key, window⟩ members).get ⟨key, window⟩ = members := by
    rw [SeriesIndex.get_single, if_pos rfl]
  unfold callbackCall title
  -- On both routes the key takes the place of the placeholder, in the tree and in the raw text.
  rcases callback_cases callback r denotes with ⟨combiner, member, rfl, rfl⟩ | ⟨unlisted, named⟩
  · have listed : combiner.name ∈ Combiner.names := List.mem_map_of_mem member
    rw [if_pos listed, if_pos listed]
    simp only [Expr.rename, Expr.renameEach, Expr.renameNamed, ↓reduceIte,
      replace_whole placeholder key (by decide)]
    rw [combinator_outcome _ rfl window levels _ key _ combiner member _ rfl rfl (by rw [found]; exact occupied), found]
    rfl
  · rw [if_neg unlisted, if_neg unlisted]
    simp only [Expr.rename, Expr.renameEach, Expr.renameNamed, ↓reduceIte]
    rw [aggregate_outcome _ rfl window levels _ key _ callback r named _ rfl rfl (by rw [found]; exact occupied), found]

theorem group_outcome (key : String) (members : List Series) (occupied : members.isEmpty = false) :
    (evaluateGroup ((Builtin.evaluatorWith settings).scope window (levels + 2) index)
        (.call (callbackCall callback)) (key, members)).outcome =
      (Series.combine (title callback r key) members r.reduce).map fun s => [s.renamed key] := by
  unfold evaluateGroup
  simp only [Answer.bind_eq, Answer.pure_eq, Answer.and_then_outcome, Answer.done_outcome]
  change (((Builtin.evaluatorWith settings).node window (levels + 2) (.single ⟨key, window⟩ members)
    ((Expr.call (callbackCall callback)).rename placeholder key)).outcome >>= _) = _
  rw [callback_outcome settings window levels callback r denotes key members occupied]
  cases Series.combine (title callback r key) members r.reduce with
  | error e => rfl
  | ok s => rfl

end

end TargetEval.Grouping
