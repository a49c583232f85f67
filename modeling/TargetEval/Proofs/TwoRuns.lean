import TargetEval.Proofs.Builtins
import TargetEval.Proofs.Index
import TargetEval.Proofs.Twin

/-!
Two runs of one evaluator side by side. A relation between series that every operation on series
respects is respected by evaluation: indexes that relate the series of the metrics that are looked
up give twin answers, whatever the windows are. A property of series is the relation of a series
with itself.
-/

set_option autoImplicit false

namespace TargetEval

mutual

-- The metrics that evaluation looks up: the leaves among positional arguments. Named arguments are
-- never evaluated.
def Expr.sources : Expr → List String
  | .metric name _ => [name]
  | .call ⟨_, arguments, _, _, _⟩ => sourcesOf arguments
  | _ => []

def sourcesOf : List Expr → List String
  | [] => []
  | e :: rest => e.sources ++ sourcesOf rest

end

theorem sources_of_mem (arguments : List Expr) (e : Expr) (member : e ∈ arguments) :
    ∀ m ∈ e.sources, m ∈ sourcesOf arguments := by
  intro m source
  induction arguments with
  | nil => cases member
  | cons head rest ih =>
      rcases List.mem_cons.mp member with rfl | later
      · exact List.mem_append_left _ source
      · exact List.mem_append_right _ (ih later)

theorem call_sources (c : Call Expr) (e : Expr) (member : e ∈ c.arguments) :
    ∀ m ∈ e.sources, m ∈ (Expr.call c).sources :=
  sources_of_mem c.arguments e member

-- What every operation of the built-in functions keeps related.
structure Respected (related : Series → Series → Prop) : Prop where
  name : ∀ s t, related s t → s.name = t.name
  renamed : ∀ s t name, related s t → related (s.renamed name) (t.renamed name)
  combine : ∀ name xs ys fold, List.Forall₂ related xs ys →
    Alike related (Series.combine name xs fold) (Series.combine name ys fold)
  summarize : ∀ s t name width r fromStart, related s t →
    Alike related (s.summarize name width r fromStart) (t.summarize name width r fromStart)
  smooth : ∀ s t name weight, related s t → related (s.smooth name weight) (t.smooth name weight)
  passes : ∀ s t r comparison threshold, related s t →
    Threshold.passes r comparison threshold s = Threshold.passes r comparison threshold t

structure TwinScopes (related : Series → Series → Prop) (c : Call Expr) (left right : Scope) : Prop where
  settings : left.settings = right.settings
  registered : left.isRegistered = right.isRegistered
  read : left.read = right.read
  arguments : ∀ e ∈ c.arguments, Answer.Twin (List.Forall₂ related) (left.evaluate e) (right.evaluate e)
  -- An index of one key, under the window of each side.
  groups : ∀ key xs ys e, List.Forall₂ related xs ys →
    Answer.Twin (List.Forall₂ related) (left.evaluateIn (.single ⟨key, left.window⟩ xs) e)
      (right.evaluateIn (.single ⟨key, right.window⟩ ys) e)

variable {related : Series → Series → Prop}

theorem is_empty_of_related {xs ys : List Series} (inputs : List.Forall₂ related xs ys) : xs.isEmpty = ys.isEmpty := by
  cases inputs with
  | nil => rfl
  | cons same rest => rfl

section

variable (respected : Respected related)

include respected

theorem aggregate_related (c : Call Expr) (xs ys : List Series) (inputs : List.Forall₂ related xs ys) :
    Alike (List.Forall₂ related) (Aggregate.compute c xs) (Aggregate.compute c ys) := by
  refine Alike.bind_same _ fun func => Alike.bind_same _ fun reducer => ?_
  rw [is_empty_of_related inputs]
  split
  · exact .error _
  · exact (respected.combine _ xs ys _ inputs).bind fun _ _ same => .ok (.cons same .nil)

theorem rollup_related (c : Call Expr) (xs ys : List Series) (inputs : List.Forall₂ related xs ys) :
    Alike (List.Forall₂ related) (Rollup.compute c xs) (Rollup.compute c ys) := by
  refine Alike.bind_same _ fun o => Alike.map_m inputs fun s t same => ?_
  rw [rollup_apply, rollup_apply, respected.name s t same]
  exact (respected.summarize s t _ _ _ _ same).map_error _

theorem threshold_related (c : Call Expr) (xs ys : List Series) (inputs : List.Forall₂ related xs ys) :
    Alike (List.Forall₂ related) (Threshold.compute c xs) (Threshold.compute c ys) := by
  unfold Threshold.compute
  -- Five coercions of arguments come before the filter and see no series.
  iterate 5 refine Alike.bind_same _ fun _ => ?_
  refine .ok ?_
  induction inputs with
  | nil => exact .nil
  | cons same _ ih =>
      rw [List.filter_cons, List.filter_cons, respected.passes _ _ _ _ _ same]
      split
      · exact .cons same ih
      · exact ih

theorem smoothing_related (c : Call Expr) (xs ys : List Series) (inputs : List.Forall₂ related xs ys) :
    Alike (List.Forall₂ related) (Smoothing.compute c xs) (Smoothing.compute c ys) := by
  refine Alike.bind_same _ fun alpha => .ok ?_
  refine List.forall₂_map_left_iff.mpr (List.forall₂_map_right_iff.mpr (inputs.imp fun s t same => ?_))
  rw [respected.name s t same]
  exact respected.smooth s t _ _ same

theorem combiner_related (combiner : Combiner) (c : Call Expr) (xs ys : List Series)
    (inputs : List.Forall₂ related xs ys) :
    Alike (List.Forall₂ related) (combiner.compute c xs) (combiner.compute c ys) :=
  (respected.combine _ xs ys _ inputs).bind fun _ _ same => .ok (.cons same .nil)

end

theorem series_argument_twin {c : Call Expr} {left right : Scope} (twin : TwinScopes related c left right)
    (index : Nat) (name : String) :
    Answer.Twin (List.Forall₂ related) (left.seriesArgument c index name) (right.seriesArgument c index name) := by
  rw [series_argument, series_argument]
  cases given : c.seriesArgument index name with
  | error e => exact .fail _ e
  | ok e => exact twin.arguments e (series_argument_mem c index name e given)

theorem argument_lists_twin {c : Call Expr} {left right : Scope} (twin : TwinScopes related c left right) :
    Answer.Twin (List.Forall₂ (List.Forall₂ related)) (left.argumentLists c) (right.argumentLists c) := by
  have inputs : List.Forall₂ Eq c.arguments c.arguments := List.forall₂_same.mpr fun _ _ => rfl
  unfold Scope.argumentLists
  rw [twin.settings]
  split
  · exact .all_of inputs fun e member _ same => same ▸ twin.arguments e member
  · exact .in_order inputs fun e member _ same => same ▸ twin.arguments e member

theorem all_series_twin {c : Call Expr} {left right : Scope} (twin : TwinScopes related c left right) (name : String) :
    Answer.Twin (List.Forall₂ related) (left.allSeries c name) (right.allSeries c name) := by
  rw [all_series, all_series]
  refine .same_and_then _ fun _ => .same_and_then _ fun _ => .and_then (argument_lists_twin twin) ?_
  intro lists others same
  have flat : List.Forall₂ related lists.flatten others.flatten := List.rel_flatten same
  rw [is_empty_of_related flat]
  split
  · exact .fail _ _
  · exact .done flat

theorem combiner_twin (respected : Respected related) {c : Call Expr} {left right : Scope}
    (twin : TwinScopes related c left right) :
    Answer.Twin (List.Forall₂ related) (Combiner.function.run left c) (Combiner.function.run right c) := by
  rw [combiner_run, combiner_run]
  refine .same_and_then _ fun combiner => .and_then (all_series_twin twin "seriesLists") ?_
  exact fun xs ys inputs => .of_except (combiner_related respected combiner c xs ys inputs)

theorem computing_twin {f : Function} {compute : Call Expr → List Series → Except Error (List Series)}
    (computes : f.Computes compute) {c : Call Expr} {left right : Scope} (twin : TwinScopes related c left right)
    (each : ∀ xs ys, List.Forall₂ related xs ys → Alike (List.Forall₂ related) (compute c xs) (compute c ys)) :
    Answer.Twin (List.Forall₂ related) (f.run left c) (f.run right c) := by
  rw [computes, computes]
  exact .and_then (series_argument_twin twin 0 "seriesList") fun xs ys inputs => .of_except (each xs ys inputs)

def SameGroup (related : Series → Series → Prop) (g h : Grouping.Group) : Prop :=
  g.1 = h.1 ∧ List.Forall₂ related g.2 h.2

theorem file_related (key : String) (s t : Series) (same : related s t) (found others : List Grouping.Group)
    (groups : List.Forall₂ (SameGroup related) found others) :
    List.Forall₂ (SameGroup related) (Grouping.file key s found) (Grouping.file key t others) := by
  induction groups with
  | nil => exact .cons ⟨rfl, .cons same .nil⟩ .nil
  | @cons g h rest more first later ih =>
      obtain ⟨k, members⟩ := g
      obtain ⟨k', twins⟩ := h
      obtain ⟨rfl, inputs⟩ := first
      by_cases hit : k = key
      · rw [Grouping.file, if_pos hit, Grouping.file, if_pos hit]
        exact .cons ⟨rfl, List.rel_append inputs (.cons same .nil)⟩ later
      · rw [Grouping.file, if_neg hit, Grouping.file, if_neg hit]
        exact .cons ⟨rfl, inputs⟩ ih

theorem groups_related (respected : Respected related) (c : Call Expr) (o : Grouping.Options) (xs ys : List Series)
    (inputs : List.Forall₂ related xs ys) :
    Alike (List.Forall₂ (SameGroup related)) (Grouping.groups c o xs) (Grouping.groups c o ys) := by
  -- The fold goes on from groups already found, so they are part of the induction.
  have filed : ∀ found others, List.Forall₂ (SameGroup related) found others →
      Alike (List.Forall₂ (SameGroup related))
        (xs.foldlM (fun found s => return Grouping.file (← Grouping.keyOf c o s) s found) found)
        (ys.foldlM (fun found s => return Grouping.file (← Grouping.keyOf c o s) s found) others) := by
    induction inputs with
    | nil => exact fun _ _ groups => .ok groups
    | cons same _ ih =>
        intro found others groups
        have keys : ∀ s t, related s t → Grouping.keyOf c o s = Grouping.keyOf c o t := fun s t same => by
          rw [Grouping.keyOf, Grouping.keyOf, respected.name s t same]
        rw [List.foldlM_cons, List.foldlM_cons, keys _ _ same]
        refine Alike.bind (Alike.bind_same _ fun key => .ok (file_related key _ _ same found others groups)) ?_
        exact fun found others groups => ih found others groups
  exact filed [] [] .nil

theorem group_twin (respected : Respected related) {c : Call Expr} {left right : Scope}
    (twin : TwinScopes related c left right) (e : Expr) (g h : Grouping.Group) (same : SameGroup related g h) :
    Answer.Twin (List.Forall₂ related) (Grouping.evaluateGroup left e g) (Grouping.evaluateGroup right e h) := by
  obtain ⟨key, members⟩ := g
  obtain ⟨key', others⟩ := h
  obtain ⟨rfl, inputs⟩ := same
  refine .and_then (twin.groups key members others _ inputs) fun xs ys results => .done ?_
  cases results with
  | nil => exact .nil
  | cons first rest => exact .cons (respected.renamed _ _ key first) rest

theorem keep_or_drop_twin {c : Call Expr} {left right : Scope} (twin : TwinScopes related c left right)
    (a b : Answer (List Series)) (same : Answer.Twin (List.Forall₂ related) a b) :
    Answer.Twin (List.Forall₂ related) (Grouping.keepOrDrop left c a) (Grouping.keepOrDrop right c b) := by
  unfold Grouping.keepOrDrop
  rw [twin.settings, same.succeeded_eq]
  split
  · have dropped : Answer.Twin (List.Forall₂ related) ⟨.ok [], a.events⟩ ⟨.ok [], b.events⟩ :=
      ⟨.ok .nil, same.sameEvents⟩
    exact dropped.followed_by _ _
  · exact same

theorem grouping_twin (respected : Respected related) {c : Call Expr} {left right : Scope}
    (twin : TwinScopes related c left right) :
    Answer.Twin (List.Forall₂ related) (Grouping.function.run left c) (Grouping.function.run right c) := by
  rw [grouping_run, grouping_run]
  refine .and_then (series_argument_twin twin 0 "seriesList") fun xs ys inputs => ?_
  refine .same_and_then _ fun o => ?_
  have templates : Grouping.template left c o.callback = Grouping.template right c o.callback := by
    simp only [Grouping.template, Grouping.templateText, twin.registered, twin.read]
  rw [templates]
  refine .same_and_then _ fun e => .and_then (.of_except (groups_related respected c o xs ys inputs)) ?_
  intro found others groups
  have each := Answer.Twin.in_order groups fun g _ h same =>
    keep_or_drop_twin twin _ _ (group_twin respected twin e g h same)
  exact each.and_then fun _ _ results => .done (List.rel_flatten results)

theorem builtin_twin (respected : Respected related) (row : List String × Function) (listed : row ∈ Builtin.table)
    {c : Call Expr} {left right : Scope} (twin : TwinScopes related c left right) :
    Answer.Twin (List.Forall₂ related) (row.2.run left c) (row.2.run right c) := by
  simp only [Builtin.table, List.mem_cons, List.not_mem_nil, or_false] at listed
  rcases listed with rfl | rfl | rfl | rfl | rfl | rfl
  · exact combiner_twin respected twin
  · exact computing_twin aggregate_computes twin (aggregate_related respected c)
  · exact computing_twin rollup_computes twin (rollup_related respected c)
  · exact computing_twin threshold_computes twin (threshold_related respected c)
  · exact grouping_twin respected twin
  · exact computing_twin smoothing_computes twin (smoothing_related respected c)

theorem single_related (first second : Window) (key : String) (xs ys : List Series)
    (inputs : List.Forall₂ related xs ys) (m : String) :
    List.Forall₂ related ((SeriesIndex.single ⟨key, first⟩ xs).get ⟨m, first⟩)
      ((SeriesIndex.single ⟨key, second⟩ ys).get ⟨m, second⟩) := by
  -- The callback of a group finds the series of the group, or nothing.
  simp only [SeriesIndex.get_single, FetchKey.mk.injEq, and_true]
  split
  · exact inputs
  · exact .nil

theorem node_twin (respected : Respected related) (ev : Evaluator) (builtin : ev.registry = Builtin.registry)
    (first second : Window) (levels : Nat) :
    ∀ (index other : SeriesIndex) (e : Expr),
      (∀ m ∈ e.sources, List.Forall₂ related (index.get ⟨m, first⟩) (other.get ⟨m, second⟩)) →
        Answer.Twin (List.Forall₂ related) (ev.node first levels index e) (ev.node second levels other e) := by
  -- Arguments and callbacks are both evaluated one level down. The indexes of callbacks are new, so
  -- the induction is over all pairs of indexes.
  induction levels with
  | zero => exact fun _ _ _ _ => .fail _ _
  | succ levels ih =>
      intro index other e sources
      cases e with
      | metric name position => exact .done (sources name (by simp [Expr.sources]))
      | number value => exact .fail _ _
      | string value => exact .fail _ _
      | boolean value => exact .fail _ _
      | call c =>
          cases resolved : ev.registry.resolve c.name c.position with
          | error e =>
              rw [node_unresolved ev _ _ _ c e resolved, node_unresolved ev _ _ _ c e resolved]
              exact .fail _ e
          | ok f =>
              rw [node_call ev _ _ _ c f resolved, node_call ev _ _ _ c f resolved]
              rw [builtin] at resolved
              obtain ⟨row, listed, _, rfl⟩ := Builtin.resolve_row c.name c.position f resolved
              have twin : TwinScopes related c (ev.scope first levels index) (ev.scope second levels other) :=
                { settings := rfl
                  registered := rfl
                  read := rfl
                  arguments := fun e member =>
                    ih index other e fun m source => sources m (call_sources c e member m source)
                  groups := fun key xs ys e inputs =>
                    ih _ _ e fun m _ => single_related first second key xs ys inputs m }
              have ran := builtin_twin respected row listed twin
              rw [ran.succeeded_eq]
              exact ran.followed_by _ _

end TargetEval
