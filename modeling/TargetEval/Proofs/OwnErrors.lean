import TargetEval.Proofs.Builtins

set_option autoImplicit false

namespace TargetEval

variable {α β : Type}

def Shallow (a : Except Error α) : Prop := ∀ depth limit, a ≠ .error (.recursionLimit depth limit)

namespace Shallow

theorem ok (value : α) : Shallow (.ok value) := by
  intro depth limit same
  cases same

theorem error {e : Error} (other : ∀ depth limit, e ≠ .recursionLimit depth limit) :
    Shallow (.error e : Except Error α) := by
  intro depth limit same
  exact other depth limit (Except.error.inj same)

theorem bind {a : Except Error α} {next : α → Except Error β} (first : Shallow a) (rest : ∀ x, Shallow (next x)) :
    Shallow (a >>= next) := by
  cases a with
  | ok x => exact rest x
  | error e =>
      intro depth limit same
      cases same
      exact first depth limit rfl

theorem ite {a b : Except Error α} (condition : Prop) [Decidable condition] (yes : Shallow a) (no : Shallow b) :
    Shallow (if condition then a else b) := by
  split
  · exact yes
  · exact no

theorem map_m {f : α → Except Error β} (items : List α) (each : ∀ x, Shallow (f x)) : Shallow (items.mapM f) := by
  induction items with
  | nil => exact ok []
  | cons item rest ih =>
      rw [List.mapM_cons]
      exact bind (each item) fun _ => bind ih fun _ => ok _

theorem fold_m {f : β → α → Except Error β} (items : List α) (each : ∀ found x, Shallow (f found x)) :
    ∀ found, Shallow (items.foldlM f found) := by
  induction items with
  | nil => exact fun found => ok found
  | cons item rest ih =>
      intro found
      rw [List.foldlM_cons]
      exact bind (each found item) ih

end Shallow

section

variable (c : Call Expr) (index : Nat) (name : String)

theorem argument_shallow (expected : ArgumentType) : Shallow (c.argument index name expected) := by
  unfold Call.argument
  split
  · exact .ok _
  · exact .error nofun

theorem series_argument_shallow : Shallow (c.seriesArgument index name) :=
  .bind (argument_shallow c index name _) fun _ => .ite _ (.ok _) (.error nofun)

theorem check_series_shallow (arguments : List Expr) : Shallow (Scope.checkSeries c name index arguments) := by
  induction arguments generalizing index with
  | nil => exact .ok ()
  | cons e rest ih => exact .ite _ (ih (index + 1)) (.error nofun)

theorem string_argument_shallow : Shallow (c.stringArgument index name) := by
  refine .bind (argument_shallow c index name _) fun e => ?_
  split
  · exact .ok _
  · exact .error nofun

theorem float_argument_shallow : Shallow (c.floatArgument index name) := by
  refine .bind (argument_shallow c index name _) fun e => ?_
  split
  · exact .ok _
  · exact .error nofun

theorem interval_argument_shallow (sign : Int) : Shallow (c.intervalArgument index name sign) := by
  refine .bind (argument_shallow c index name _) fun e => ?_
  split
  · split
    · exact .ok _
    · exact .error nofun
  · exact .error nofun

theorem integer_of_shallow (e : Expr) : Shallow (c.integerOf index name e) := by
  unfold Call.integerOf
  split
  · split
    · exact .ok _
    · exact .error nofun
  · exact .error nofun

theorem integers_of_shallow (arguments : List Expr) : Shallow (c.integersOf name index arguments) := by
  induction arguments generalizing index with
  | nil => exact .ok []
  | cons e rest ih => exact .bind (integer_of_shallow c index name e) fun _ => .bind (ih (index + 1)) fun _ => .ok _

theorem string_or_shallow (default : String) : Shallow (c.stringOr name index default) := by
  unfold Call.stringOr
  split
  · exact .ok _
  · exact .ok _
  · exact .error nofun

theorem boolean_or_shallow (default : Bool) : Shallow (c.booleanOr name index default) := by
  unfold Call.booleanOr
  split
  · exact .ok _
  · exact .ok _
  · exact .error nofun

end

theorem reducer_shallow (name : String) : Shallow (Reducer.ofName name) := by
  unfold Reducer.ofName
  split
  · exact .ok _
  · exact .error nofun

theorem comparison_shallow (symbol : String) : Shallow (Comparison.ofSymbol symbol) := by
  unfold Comparison.ofSymbol
  split
  · exact .ok _
  · exact .error nofun

theorem combiner_shallow (name : String) : Shallow (Combiner.ofName name) := by
  unfold Combiner.ofName
  split
  · exact .ok _
  · exact .error nofun

theorem combine_shallow (name : String) (series : List Series) (fold : List Float → Float) :
    Shallow (Series.combine name series fold) := by
  unfold Series.combine
  split
  · exact .error nofun
  · split
    · exact .error nofun
    · exact .ok _

section

variable (c : Call Expr) (series : List Series)

theorem combiner_compute_shallow (combiner : Combiner) : Shallow (combiner.compute c series) :=
  .bind (combine_shallow _ _ _) fun _ => .ok _

theorem aggregate_shallow : Shallow (Aggregate.compute c series) := by
  refine .bind (string_argument_shallow c 1 "func") fun func => .bind (reducer_shallow func) fun reducer => ?_
  refine .ite _ (.error nofun) ?_
  exact .bind (combine_shallow _ _ _) fun _ => .ok _

theorem rollup_shallow : Shallow (Rollup.compute c series) := by
  have options : Shallow (Rollup.options c) := by
    refine .bind (interval_argument_shallow c 1 _ _) fun width => ?_
    refine .ite _ (.error nofun) ?_
    refine .bind (string_or_shallow c 2 _ _) fun func => .bind (boolean_or_shallow c 3 _ _) fun fromStart => ?_
    exact .bind (reducer_shallow func) fun reducer => .ok _
  refine .bind options fun o => .map_m series fun s => ?_
  unfold Rollup.Options.apply
  split
  · exact .ok _
  · exact .error nofun

theorem threshold_shallow : Shallow (Threshold.compute c series) := by
  refine .bind (string_argument_shallow c 1 _) fun func => .bind (string_argument_shallow c 2 _) fun operator => ?_
  refine .bind (float_argument_shallow c 3 _) fun threshold => .bind ?_ fun reducer => ?_
  · exact .bind (reducer_shallow func) fun reducer => .ite _ (.ok _) (.error nofun)
  · exact .bind (comparison_shallow operator) fun comparison => .ok _

theorem smoothing_shallow : Shallow (Smoothing.compute c series) :=
  .bind (.bind (float_argument_shallow c 1 _) fun _ => .ite _ (.ok _) (.error nofun)) fun _ => .ok _

theorem grouping_options_shallow : Shallow (Grouping.options c) := by
  refine .ite _ ?_ ?_
  · refine .bind (.bind (argument_shallow c 1 _ _) fun e => integer_of_shallow c 1 _ e) fun node => ?_
    exact .bind (string_or_shallow c 2 _ _) fun callback => .ok _
  · refine .bind (string_argument_shallow c 1 _) fun callback => .bind ?_ fun nodes => .ok _
    exact .bind (argument_shallow c 2 _ _) fun _ => integers_of_shallow c 2 _ _

theorem groups_shallow (o : Grouping.Options) : Shallow (Grouping.groups c o series) := by
  refine .fold_m series (fun found s => .bind ?_ fun key => .ok _) []
  unfold Grouping.keyOf
  split
  · exact .ok _
  · exact .error nofun

end

theorem read_shallow (text : String) : Shallow (Target.read text) := by
  unfold Target.read
  split
  · exact .ite _ (.ok _) (.error nofun)
  · exact .error nofun
  · exact .error nofun

theorem template_shallow (scope : Scope) (reads : scope.read = Target.read) (c : Call Expr) (callback : String) :
    Shallow (Grouping.template scope c callback) := by
  unfold Grouping.template
  rw [reads]
  refine .bind (.ite _ (.ok _) (.ite _ (.ok _) ?_)) fun text => read_shallow text
  exact .error nofun

end TargetEval
