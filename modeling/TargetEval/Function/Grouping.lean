import TargetEval.Evaluation.Scope
import TargetEval.Expr.Renaming
import TargetEval.Reducer.Basic
import TargetEval.Target.MetricName

/-!
`groupByNode` and `groupByNodes`: series grouped by chosen nodes of their names, each group handed
to a callback. The callback is an expression with a placeholder metric; for each group it is
evaluated with the group's key in that place, against an index that holds the group alone.
-/

set_option autoImplicit false

namespace TargetEval.Grouping

def placeholder : String := "__group__"

structure Options where
  callback : String
  nodes : List Int64
  firstNode : Nat
  nodeName : String
deriving DecidableEq

def options (c : Call Expr) : Except Error Options :=
  if c.name = "groupByNode" then do
    let node ← c.integerArgument 1 "nodeNum"
    let callback ← c.stringOr "callback" 2 "average"
    return ⟨callback, [node], 1, "nodeNum"⟩
  else do
    let callback ← c.stringArgument 1 "callback"
    let nodes ← c.integersFrom 2 "nodes"
    return ⟨callback, nodes, 2, "nodes"⟩

def templateText (scope : Scope) (c : Call Expr) (callback : String) : Except Error String :=
  if scope.isRegistered callback then .ok (callback ++ "(" ++ placeholder ++ ")")
  else if (Reducer.ofName? callback).isSome then
    .ok ("aggregate(" ++ placeholder ++ ",'" ++ callback ++ "')")
  else .error (.unknownFunction callback c.position)

def template (scope : Scope) (c : Call Expr) (callback : String) : Except Error Expr := do
  scope.read (← templateText scope c callback)

abbrev Group := String × List Series

def file (key : String) (s : Series) : List Group → List Group
  | [] => [(key, [s])]
  | (k, members) :: rest => if k = key then (k, members ++ [s]) :: rest else (k, members) :: file key s rest

def HasNode (count : Nat) (number : Int64) : Prop := -(count : Int) ≤ number.toInt ∧ number.toInt < count

instance (count : Nat) (number : Int64) : Decidable (HasNode count number) := inferInstanceAs (Decidable (_ ∧ _))

def HasKey (o : Options) (s : Series) : Prop := ∀ n ∈ o.nodes, HasNode (MetricName.nodes s.name).length n

instance (o : Options) (s : Series) : Decidable (HasKey o s) := List.decidableBAll _ o.nodes

def keyOf (c : Call Expr) (o : Options) (s : Series) : Except Error String :=
  match MetricName.key s.name o.nodes with
  | .ok key => .ok key
  | .error missing =>
      .error (c.failure (o.firstNode + missing.offset) o.nodeName .integer
        (.invalid (missing.message s.name)))

def groups (c : Call Expr) (o : Options) (series : List Series) : Except Error (List Group) :=
  series.foldlM (fun found s => return file (← keyOf c o s) s found) []

def labelled (key : String) : List Series → List Series
  | [] => []
  | first :: rest => first.renamed key :: rest

def evaluateGroup (scope : Scope) (e : Expr) (group : Group) : Answer (List Series) := do
  let (key, members) := group
  let index := SeriesIndex.single ⟨key, scope.window⟩ members
  return labelled key (← scope.evaluateIn index (e.rename placeholder key))

def keepOrDrop (scope : Scope) (c : Call Expr) (a : Answer (List Series)) : Answer (List Series) :=
  if scope.settings.lenientGrouping && !a.succeeded then
    (Answer.mk (.ok []) a.events).followedBy scope.settings.recordsMetrics (.dropped c.name)
  else a

def run (scope : Scope) (c : Call Expr) : Answer (List Series) := do
  let series ← scope.seriesArgument c 0 "seriesList"
  let o ← options c
  let e ← template scope c o.callback
  let found ← groups c o series
  let results ← Answer.inOrder (fun group => keepOrDrop scope c (evaluateGroup scope e group)) found
  return results.flatten

def descriptors : List Descriptor :=
  [{ name := "groupByNode"
     signature := "groupByNode(seriesList, nodeNum, callback='average')"
     group := "Combine"
     description :=
       "Takes a serieslist and maps a callback to subgroups within as defined by a "
         ++ "common node. Negative node numbers count from the end of the name."
     parameters :=
       [.needed "seriesList" .seriesList, .needed "nodeNum" .node,
         (Parameter.optional "callback" .reducer "average").among (Reducer.all.map Reducer.name)] },
    { name := "groupByNodes"
      signature := "groupByNodes(seriesList, callback, *nodes)"
      group := "Combine"
      description :=
        "Takes a serieslist and maps a callback to subgroups within as defined by "
          ++ "multiple nodes joined with '.'."
      parameters :=
        [.needed "seriesList" .seriesList,
          (Parameter.needed "callback" .reducer).among (Reducer.all.map Reducer.name),
          (Parameter.needed "nodes" .node).repeating] }]

def function : Function := ⟨run, descriptors⟩

end TargetEval.Grouping
